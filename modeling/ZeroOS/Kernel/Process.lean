import ZeroOS.Kernel.Core

/-!
Process lifecycle: registration, kill and fault.
-/

namespace ZeroOS.KernelCore

def createProcessEntry (pid : ProcessId) (name : String) (timestamp : UInt64) : Process :=
  { pid, name, state := .Running,
    metrics := { memorySize := 65536, lastActiveNs := timestamp, startTimeNs := timestamp } }

def registerProcessWithParent (kernel : KernelCore) (name : String) (parent : ProcessId)
    (timestamp : UInt64) : KernelCore × ProcessId × List Commit :=
  let pid := kernel.nextPid
  let kernel := { kernel with
    nextPid := kernel.nextPid + 1
    processes := kernel.processes.insert pid (createProcessEntry pid name timestamp)
    capSpaces := kernel.capSpaces.insert pid CapabilitySpace.new }
  (kernel, pid, [.draft timestamp (.ProcessCreated pid parent name)])

variable (kernel : KernelCore) (pid : ProcessId) (timestamp : UInt64)

def registerProcess (name : String) (timestamp : UInt64) : KernelCore × ProcessId × List Commit :=
  kernel.registerProcessWithParent name 0 timestamp

def registerProcessWithPid (name : String) (timestamp : UInt64) :
    KernelCore × ProcessId × List Commit :=
  if pid ∈ kernel.processes then (kernel, pid, [])
  else
    let process : Process :=
      { pid, name, state := .Running,
        metrics := { lastActiveNs := timestamp, startTimeNs := timestamp } }
    let kernel := { kernel with
      nextPid := if pid ≥ kernel.nextPid then pid + 1 else kernel.nextPid
      processes := kernel.processes.insert pid process
      capSpaces := kernel.capSpaces.insert pid CapabilitySpace.new }
    (kernel, pid, [.draft timestamp (.ProcessCreated pid 0 name)])

def hasKillPermission (caller target : ProcessId) : Bool :=
  match kernel.capSpaces[caller]? with
  | none => false
  | some cspace =>
    cspace.slots.toList.any fun (_, cap) =>
      cap.objectType == .Process && cap.objectId == target && cap.permissions.write

-- The ids are collected first; each is then removed, and a commit made for
-- each that was still there.
def cleanupProcessEndpoints : KernelCore × List Commit :=
  let ownedEndpoints := (kernel.endpoints.toList.filter fun (_, ep) => ep.owner == pid).map Prod.fst
  ownedEndpoints.foldl
    (fun (kernel, commits) eid =>
      match kernel.endpoints[eid]? with
      | none => (kernel, commits)
      | some _ =>
        ({ kernel with endpoints := kernel.endpoints.erase eid },
          commits ++ [.draft timestamp (.EndpointDestroyed eid)]))
    (kernel, [])

def killProcess : KernelCore × List Commit :=
  let commits : List Commit :=
    match kernel.processes[pid]? with
    | none => []
    | some _ => [.draft timestamp (.ProcessExited pid (-1))]
  let kernel := { kernel with
    processes := kernel.processes.erase pid
    capSpaces := kernel.capSpaces.erase pid }
  let (kernel, cleanup) := kernel.cleanupProcessEndpoints pid timestamp
  (kernel, commits ++ cleanup)

def killProcessWithCapCheck (caller targetPid : ProcessId) (timestamp : UInt64) : Outcome Unit :=
  if targetPid ∉ kernel.processes then ⟨kernel, .error .ProcessNotFound, []⟩
  else if caller = 1 then
    let (kernel, commits) := kernel.killProcess targetPid timestamp
    ⟨kernel, .ok (), commits⟩
  else if !kernel.hasKillPermission caller targetPid then
    ⟨kernel, .error .PermissionDenied, []⟩
  else
    let (kernel, commits) := kernel.killProcess targetPid timestamp
    ⟨kernel, .ok (), commits⟩

def faultProcess (reason : UInt32) (description : String) (timestamp : UInt64) :
    KernelCore × List Commit :=
  let commits : List Commit :=
    if pid ∈ kernel.processes then
      [.draft timestamp (.ProcessFaulted pid reason description)]
    else []
  let (kernel, killed) := kernel.killProcess pid timestamp
  (kernel, commits ++ killed)

end ZeroOS.KernelCore
