import ZeroOS.Kernel.Replay
import ZeroOS.Authority.Holdings

/-!
All mutating operations of the kernel core behind one type, and the few things
that any of them can do to a view.
-/

namespace ZeroOS

inductive Op where
  | RegisterProcess (name : String)
  | RegisterProcessWithParent (name : String) (parent : ProcessId)
  | RegisterProcessWithPid (pid : ProcessId) (name : String)
  | KillProcess (pid : ProcessId)
  | KillProcessWithCapCheck (caller targetPid : ProcessId)
  | FaultProcess (pid : ProcessId) (reason : UInt32) (description : String)
  | CreateEndpoint (owner : ProcessId)
  | GrantCapability (fromPid : ProcessId) (fromSlot : CapSlot) (toPid : ProcessId)
      (perms : Permissions)
  | GrantCapabilityToEndpoint (ownerPid : ProcessId) (eid : EndpointId) (toPid : ProcessId)
      (perms : Permissions)
  | RevokeCapability (pid : ProcessId) (slot : CapSlot)
  | DeleteCapability (pid : ProcessId) (slot : CapSlot)
  | DeriveCapability (pid : ProcessId) (slot : CapSlot) (perms : Permissions)
  | IpcSend (fromPid : ProcessId) (slot : CapSlot) (tag : UInt32) (data : List UInt8)
  | IpcSendWithCaps (fromPid : ProcessId) (slot : CapSlot) (tag : UInt32) (data : List UInt8)
      (capSlots : List CapSlot)
  | IpcReceive (pid : ProcessId) (slot : CapSlot)
  | IpcReceiveWithCaps (pid : ProcessId) (slot : CapSlot)
  | HandleSyscall (pid : ProcessId) (syscall : Syscall)
  | AllocateMemory (pid : ProcessId) (bytes : Nat)
  | FreeMemory (pid : ProcessId) (bytes : Nat)
  | UpdateProcessMemory (pid : ProcessId) (newSize : Nat)

namespace KernelCore

variable (kernel : KernelCore) (timed : UInt64 × Op)

-- The state after an operation at a time, and the commits it returns.
def perform (now : UInt64) : Op → KernelCore × List CommitType
  | .RegisterProcess name =>
    let (kernel, _, commits) := kernel.registerProcess name now
    (kernel, commitTypesOf commits)
  | .RegisterProcessWithParent name parent =>
    let (kernel, _, commits) := kernel.registerProcessWithParent name parent now
    (kernel, commitTypesOf commits)
  | .RegisterProcessWithPid pid name =>
    let (kernel, _, commits) := kernel.registerProcessWithPid pid name now
    (kernel, commitTypesOf commits)
  | .KillProcess pid =>
    let (kernel, commits) := kernel.killProcess pid now
    (kernel, commitTypesOf commits)
  | .KillProcessWithCapCheck caller targetPid =>
    let outcome := kernel.killProcessWithCapCheck caller targetPid now
    (outcome.kernel, commitTypesOf outcome.commits)
  | .FaultProcess pid reason description =>
    let (kernel, commits) := kernel.faultProcess pid reason description now
    (kernel, commitTypesOf commits)
  | .CreateEndpoint owner =>
    let outcome := kernel.createEndpoint owner now
    (outcome.kernel, commitTypesOf outcome.commits)
  | .GrantCapability fromPid fromSlot toPid perms =>
    let outcome := kernel.grantCapability fromPid fromSlot toPid perms now
    (outcome.kernel, commitTypesOf outcome.commits)
  | .GrantCapabilityToEndpoint ownerPid eid toPid perms =>
    let outcome := kernel.grantCapabilityToEndpoint ownerPid eid toPid perms now
    (outcome.kernel, commitTypesOf outcome.commits)
  | .RevokeCapability pid slot =>
    let outcome := kernel.revokeCapability pid slot now
    (outcome.kernel, commitTypesOf outcome.commits)
  | .DeleteCapability pid slot =>
    let outcome := kernel.deleteCapability pid slot now
    (outcome.kernel, commitTypesOf outcome.commits)
  | .DeriveCapability pid slot perms =>
    let outcome := kernel.deriveCapability pid slot perms now
    (outcome.kernel, commitTypesOf outcome.commits)
  | .IpcSend fromPid slot tag data =>
    let (kernel, _, commit) := kernel.ipcSend fromPid slot tag data now
    (kernel, commitTypesOf commit.toList)
  | .IpcSendWithCaps fromPid slot tag data capSlots =>
    let outcome := kernel.ipcSendWithCaps fromPid slot tag data capSlots now
    (outcome.kernel, commitTypesOf outcome.commits)
  | .IpcReceive pid slot => ((kernel.ipcReceive pid slot now).1, [])
  | .IpcReceiveWithCaps pid slot =>
    let outcome := kernel.ipcReceiveWithCaps pid slot now
    (outcome.kernel, commitTypesOf outcome.commits)
  | .HandleSyscall pid syscall =>
    let outcome := kernel.handleSyscall pid syscall now
    (outcome.kernel, commitTypesOf outcome.commits)
  | .AllocateMemory pid bytes => ((kernel.allocateMemory pid bytes).1, [])
  | .FreeMemory pid bytes => ((kernel.freeMemory pid bytes).1, [])
  | .UpdateProcessMemory pid newSize => (kernel.updateProcessMemory pid newSize, [])

-- Operations with the times at which they are made.
def exec : KernelCore :=
  (kernel.perform timed.1 timed.2).1

def commitsOf : List CommitType :=
  (kernel.perform timed.1 timed.2).2

-- The ids that an operation uses up: each counter moves by one or not at all.
def allocatedEndpointIds : List EndpointId :=
  if (kernel.exec timed).nextEndpointId = kernel.nextEndpointId then []
  else [kernel.nextEndpointId]

def allocatedCapIds : List UInt64 :=
  if (kernel.exec timed).nextCapId = kernel.nextCapId then [] else [kernel.nextCapId]

end KernelCore

def CommitType.countInsert (pid : ProcessId) (count : Nat) : CommitType → Nat
  | .ProcessCreated created _ _ => if created = pid then 0 else count
  | .CapInserted into _ _ _ _ _ => if into = pid then count + 1 else count
  | _ => count

-- How many capabilities have been put into the current space of a process.
def insertsInto (pid : ProcessId) (commits : List CommitType) : Nat :=
  commits.foldl (CommitType.countInsert pid) 0

open KernelView in
inductive Effect (view : KernelView) : List CommitType → KernelView → Prop where
  | Idle : Effect view [] view
  | Register (pid parent : ProcessId) (name : String) :
      Effect view [.ProcessCreated pid parent name]
        (view.addProcess pid name (bumpPast view.nextPid pid))
  | Exit (pid : ProcessId) (code : Int32) :
      Effect view [.ProcessExited pid code] (view.exitProcess pid)
  -- The commits of a kill: those that name the process, if it is registered, and then one for
  -- each of its endpoints.
  | Drop (pid : ProcessId) (named : List CommitType) (owned : List EndpointId)
      (hnamed : pid ∉ view.processes → named = [])
      (hexit : ∀ commit ∈ named, (∃ code, commit = .ProcessExited pid code) ∨
        ∃ reason description, commit = .ProcessFaulted pid reason description)
      (howned : view.Owned pid owned) :
      Effect view (named ++ owned.map .EndpointDestroyed) (view.dropProcess pid)
  | BurnId : Effect view [] view.burnCapId
  | FailEndpoint (owner : ProcessId) (hreg : owner ∈ view.processes)
      (hspace : view.capSpaces[owner]? = none) : Effect view [] view.failEndpoint.burnCapId
  | OpenEndpoint (owner : ProcessId) (cspace : CapabilitySpace) (hreg : owner ∈ view.processes)
      (hspace : view.capSpaces[owner]? = some cspace) :
      Effect view
        [.EndpointCreated view.nextEndpointId owner,
          .ofInsert owner cspace.nextSlot
            (.endpoint view.nextCapId view.nextEndpointId Permissions.full)]
        ((view.addEndpoint owner).burnCapId.putSpace owner (cspace.insert
          (.endpoint view.nextCapId view.nextEndpointId Permissions.full)).2)
  | InsertEndpointCap (pid : ProcessId) (cspace : CapabilitySpace) (eid : EndpointId)
      (perms : Permissions) (hspace : view.capSpaces[pid]? = some cspace) :
      Effect view [.ofInsert pid cspace.nextSlot (.endpoint view.nextCapId eid perms)]
        (view.burnCapId.putSpace pid (cspace.insert (.endpoint view.nextCapId eid perms)).2)
  -- A derivation, or a grant with its additional record.
  | InsertDerived (pid : ProcessId) (cspace : CapabilitySpace) (source : Capability)
      (perms : Permissions) (record : List CommitType) (hspace : view.capSpaces[pid]? = some cspace)
      (hsource : view.Holds source)
      (hrecord : record = [] ∨ ∃ fromPid fromSlot,
        record = [.CapGranted fromPid pid fromSlot cspace.nextSlot view.nextCapId perms]) :
      Effect view
        (record ++ [.ofInsert pid cspace.nextSlot (source.derived view.nextCapId perms)])
        (view.burnCapId.putSpace pid (cspace.insert (source.derived view.nextCapId perms)).2)
  | Remove (pid : ProcessId) (slot : CapSlot) (cspace : CapabilitySpace)
      (hspace : view.capSpaces[pid]? = some cspace) :
      Effect view [.CapRemoved pid slot] (view.putSpace pid (cspace.remove slot).2)
  | Push (eid : EndpointId) (endpoint : EndpointView) (fromPid : ProcessId) (tag : UInt32)
      (data : List UInt8) (hget : view.endpoints[eid]? = some endpoint) :
      Effect view [.MessageSent fromPid eid tag data.length]
        (view.setQueue eid (endpoint.queue ++ [⟨fromPid, tag, data, []⟩]))
  | PushCaps (eid : EndpointId) (endpoint : EndpointView) (fromPid : ProcessId) (tag : UInt32)
      (data : List UInt8) (cspace : CapabilitySpace) (capSlots : List CapSlot)
      (hget : view.endpoints[eid]? = some endpoint)
      (hspace : view.capSpaces[fromPid]? = some cspace) :
      Effect view ((cspace.takeAll capSlots).2.map fun (slot, _) => .CapRemoved fromPid slot)
        ((view.putSpace fromPid (cspace.takeAll capSlots).1).setQueue eid
          (endpoint.queue ++ [⟨fromPid, tag, data, inFlight (cspace.takeAll capSlots).2⟩]))
  | Pop (eid : EndpointId) (endpoint : EndpointView) (msg : Message) (rest : List Message)
      (hget : view.endpoints[eid]? = some endpoint) (hqueue : endpoint.queue = msg :: rest) :
      Effect view [] (view.setQueue eid rest)
  | PopCaps (eid : EndpointId) (endpoint : EndpointView) (msg : Message) (rest : List Message)
      (pid : ProcessId) (cspace : CapabilitySpace)
      (hget : view.endpoints[eid]? = some endpoint) (hqueue : endpoint.queue = msg :: rest)
      (hspace : view.capSpaces[pid]? = some cspace) :
      Effect view (List.zipWith (.ofInsert pid) (cspace.insertAll msg.caps).2 msg.caps)
        ((view.setQueue eid rest).putSpace pid (cspace.insertAll msg.caps).1)

end ZeroOS
