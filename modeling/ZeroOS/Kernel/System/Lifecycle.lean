import ZeroOS.Kernel.Hal
import ZeroOS.Kernel.Syscall
import ZeroOS.Axiom.Gateway

/-!
Raw syscalls of the process lifecycle.
-/

namespace ZeroOS

namespace SyscallError

def INVALID_UTF8 : Int64 := -1

def NOT_FOUND : Int64 := -2

def NOT_SUPPORTED : Int64 := -3

def PERMISSION_DENIED : Int64 := -4

def INVALID_ARGUMENT : Int64 := -5

def SPAWN_FAILED : Int64 := -6

end SyscallError

def INIT : ProcessId := 1

-- What the kernel side of a raw syscall returns: result code, commits to record
-- and response bytes.
structure RawOutcome where
  kernel : KernelCore
  result : Int64
  commits : List CommitType := []
  data : List UInt8 := []

def commitTypesOf (commits : List Commit) : List CommitType := commits.map Commit.commitType

namespace KernelCore

variable (kernel : KernelCore) (hal : Hal) (sender : ProcessId)

def executeExit (timestamp : UInt64) : RawOutcome :=
  let (kernel, commits) := kernel.killProcess sender timestamp
  { kernel, result := 0, commits := commitTypesOf commits }

def executeKillWithCap (args : SyscallArgs) (timestamp : UInt64) : RawOutcome :=
  let outcome := kernel.killProcessWithCapCheck sender args.word0.toUInt64 timestamp
  match outcome.result with
  | .ok () => { kernel := outcome.kernel, result := 0, commits := commitTypesOf outcome.commits }
  | .error _ => { kernel := outcome.kernel, result := -1 }

def executeRegisterProcess (data : List UInt8) (timestamp : UInt64) : RawOutcome :=
  if sender ≠ 1 then { kernel, result := -1 }
  else
    let name := (fromUtf8 data).getD "unknown"
    let (kernel, pid, commits) := kernel.registerProcess name timestamp
    { kernel, result := pid.toInt64, commits := commitTypesOf commits }

-- Init's own capability is put into its space directly; no commit is made for it.
def executeCreateEndpointFor (args : SyscallArgs) (timestamp : UInt64) : RawOutcome :=
  if sender ≠ 1 then { kernel, result := -1 }
  else
    let targetPid := args.word0.toUInt64
    let outcome := kernel.createEndpoint targetPid timestamp
    let commits := commitTypesOf outcome.commits
    match outcome.result with
    | .error _ => { kernel := outcome.kernel, result := -1, commits }
    | .ok (eid, _) =>
      let initPid : ProcessId := 1
      let (capId, kernel) := outcome.kernel.takeNextCapId
      let cap : Capability :=
        { id := capId, objectType := .Endpoint, objectId := eid, permissions := Permissions.full,
          generation := 0, expiresAt := 0 }
      match kernel.capSpaces[initPid]? with
      | none => { kernel, result := -1, commits }
      | some cspace =>
        let (initSlot, cspace) := cspace.insert cap
        { kernel := { kernel with capSpaces := kernel.capSpaces.insert initPid cspace }
          result := (initSlot.toUInt64.toInt64 <<< 32) ||| (eid.toInt64 &&& 0xFFFFFFFF)
          commits }

def executeLoadBinary (data : List UInt8) : RawOutcome :=
  if sender ≠ INIT then { kernel, result := SyscallError.PERMISSION_DENIED }
  else
    match fromUtf8 data with
    | none => { kernel, result := SyscallError.INVALID_UTF8 }
    | some name =>
      match hal.loadBinary name with
      | .ok binary => { kernel, result := Int64.ofNat binary.length, data := binary }
      | .error .NotFound => { kernel, result := SyscallError.NOT_FOUND }
      | .error .NotSupported => { kernel, result := SyscallError.NOT_SUPPORTED }
      | .error _ => { kernel, result := SyscallError.NOT_FOUND }

-- The process is registered before the platform is asked to start it, and stays
-- registered when that fails.
def executeSpawnProcess (data : List UInt8) (timestamp : UInt64) : RawOutcome :=
  if sender ≠ INIT then { kernel, result := SyscallError.PERMISSION_DENIED }
  else
    match splitPrefixed data with
    | none => { kernel, result := SyscallError.INVALID_ARGUMENT }
    | some (nameBytes, binary) =>
      match fromUtf8 nameBytes with
      | none => { kernel, result := SyscallError.INVALID_UTF8 }
      | some name =>
        if binary = [] then { kernel, result := SyscallError.INVALID_ARGUMENT }
        else
          let (kernel, pid, commits) := kernel.registerProcess name timestamp
          let result := match hal.spawnProcessWithPid pid name binary with
            | .ok () => pid.toInt64
            | .error _ => SyscallError.SPAWN_FAILED
          { kernel, result, commits := commitTypesOf commits }

end KernelCore

end ZeroOS
