import ZeroOS.Kernel.System.Lifecycle

/-!
Rich results of raw syscalls.
-/

namespace ZeroOS

-- The rich result, its response bytes and the commits that making it caused.
structure RichOutcome where
  kernel : KernelCore
  result : SyscallResult
  data : List UInt8 := []
  commits : List CommitType := []

def leBytes16 (v : UInt16) : List UInt8 := [v.toUInt8, (v >>> 8).toUInt8]

def defaultRichResult (kernel : KernelCore) (result : Int64) : RichOutcome :=
  if result ≥ 0 then { kernel, result := .Ok result.toUInt64 }
  else { kernel, result := .Err .PermissionDenied }

namespace KernelCore

variable (kernel : KernelCore) (sender : ProcessId) (result : Int64)

def formatCapsList (timestamp : UInt64) : RichOutcome :=
  let outcome := kernel.handleSyscall sender .ListCaps timestamp
  match outcome.result with
  | .CapList caps =>
    let bytes := (leBytes32 (UInt32.ofNat caps.length)).toList ++
      caps.flatMap fun (slot, cap) =>
        (leBytes32 slot).toList ++ [cap.objectType.toU8] ++ (leBytes64 cap.objectId).toList
    { kernel := outcome.kernel, result := outcome.result, data := bytes }
  | _ => { kernel := outcome.kernel, result := .Ok result.toUInt64 }

def formatProcessList (timestamp : UInt64) : RichOutcome :=
  let outcome := kernel.handleSyscall sender .ListProcesses timestamp
  match outcome.result with
  | .ProcessList procs =>
    let bytes := (leBytes32 (UInt32.ofNat procs.length)).toList ++
      procs.flatMap fun (pid, name, _) =>
        (leBytes32 pid.toUInt32).toList ++ leBytes16 (UInt16.ofNat (utf8Bytes name).length) ++
          utf8Bytes name
    { kernel := outcome.kernel, result := outcome.result, data := bytes }
  | _ => { kernel := outcome.kernel, result := .Ok result.toUInt64 }

-- After the dispatcher has already received one message, a second receive is
-- made here on the same slot.
def formatReceiveResult (args : SyscallArgs) (result : Int64) (timestamp : UInt64) : RichOutcome :=
  if result = 1 then
    let outcome := kernel.ipcReceiveWithCaps sender args.word0 timestamp
    let commits := commitTypesOf outcome.commits
    match outcome.result with
    | .ok (some (msg, installedSlots)) =>
      let msgBytes := (leBytes32 msg.fromPid.toUInt32).toList ++ (leBytes32 msg.tag).toList ++
        [UInt8.ofNat installedSlots.length] ++
        installedSlots.flatMap (fun slot => (leBytes32 slot).toList) ++ msg.data
      { kernel := outcome.kernel, result := .Message msg, data := msgBytes, commits }
    | _ => { kernel := outcome.kernel, result := .Ok result.toUInt64, commits }
  else if result = 0 then { kernel, result := .WouldBlock }
  else { kernel, result := .Err .PermissionDenied }

def getSyscallRichResult (syscallNum : UInt32) (args : SyscallArgs) (result : Int64)
    (timestamp : UInt64) : RichOutcome :=
  if syscallNum = 0x35 then kernel.formatCapsList sender result timestamp
  else if syscallNum = 0x50 then kernel.formatProcessList sender result timestamp
  else if syscallNum = 0x41 then kernel.formatReceiveResult sender args result timestamp
  else defaultRichResult kernel result

end KernelCore

end ZeroOS
