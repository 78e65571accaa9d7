import ZeroOS.Core.Step
import ZeroOS.Kernel.View

/-!
The state of the pure core without the metrics of its processes, and the step function as a
relation on it.
-/

namespace ZeroOS

def Capability.child (source : Capability) (id : UInt64) (perms : Permissions) : Capability :=
  { source with id, permissions := perms, generation := source.generation + 1 }

namespace Core

structure StateView where
  processes : BTreeMap ProcessId ProcessView
  capSpaces : CapSpaces
  endpoints : BTreeMap EndpointId Endpoint
  nextPid : UInt64
  nextEndpointId : UInt64
  nextCapId : UInt64

def KernelState.view (state : KernelState) : StateView where
  processes := state.processes.map fun _ process => process.view
  capSpaces := state.capSpaces
  endpoints := state.endpoints
  nextPid := state.nextPid
  nextEndpointId := state.nextEndpointId
  nextCapId := state.nextCapId

def ownerCap (id : UInt64) (endpointId : EndpointId) : Capability :=
  { id, objectType := .Endpoint, objectId := endpointId, permissions := Permissions.full,
    generation := 0, expiresAt := 0 }

namespace StateView

section

variable (view : StateView) (pid : ProcessId)

def addProcess (name : String) : StateView :=
  { view with
    nextPid := view.nextPid + 1
    processes := view.processes.insert view.nextPid ⟨view.nextPid, name, .Running⟩
    capSpaces := view.capSpaces.insert view.nextPid CapabilitySpace.new }

def markZombie : StateView :=
  { view with processes := view.processes.modify pid fun process =>
      { process with state := .Zombie } }

def addEndpoint (owner : ProcessId) : StateView :=
  { view with
    nextEndpointId := view.nextEndpointId + 1
    endpoints := view.endpoints.insert view.nextEndpointId
      (Endpoint.new view.nextEndpointId owner) }

def putEndpoint (eid : EndpointId) (endpoint : Endpoint) : StateView :=
  { view with endpoints := view.endpoints.insert eid endpoint }

def burnCapId : StateView :=
  { view with nextCapId := view.nextCapId + 1 }

def putSpace (cspace : CapabilitySpace) : StateView :=
  { view with capSpaces := view.capSpaces.insert pid cspace }

end

-- The capability that a use of a slot is checked against.
structure Holds (view : StateView) (pid : ProcessId) (slot : CapSlot) (now : UInt64)
    (right : Permissions → Bool) (cap : Capability) : Prop where
  held : view.capSpaces.capAt pid slot = some cap
  right : right cap.permissions = true
  live : cap.isExpired now = false

structure HoldsEndpoint (view : StateView) (pid : ProcessId) (slot : CapSlot) (now : UInt64)
    (right : Permissions → Bool) (cap : Capability) (endpoint : Endpoint) : Prop
    extends view.Holds pid slot now right cap where
  type : cap.objectType = .Endpoint
  found : view.endpoints[cap.objectId]? = some endpoint

def Alive (view : StateView) (pid : ProcessId) : Prop :=
  ∃ process, view.processes[pid]? = some process ∧ process.state ≠ .Zombie

def Permits (view : StateView) (pid : ProcessId) (now : UInt64) : Syscall → Prop
  | .Kill target => target ∈ view.processes
  | .CreateEndpoint => view.Alive pid
  | .Send slot _ data | .Call slot _ data =>
    data.length ≤ MAX_MESSAGE_SIZE ∧
      ∃ cap endpoint, view.HoldsEndpoint pid slot now Permissions.write cap endpoint
  | .SendWithCaps slot _ data capSlots =>
    data.length ≤ MAX_MESSAGE_SIZE ∧ capSlots.length ≤ MAX_CAPS_PER_MESSAGE ∧
      (∃ cap endpoint, view.HoldsEndpoint pid slot now Permissions.write cap endpoint) ∧
      ∀ other ∈ capSlots, ∃ cap, view.capSpaces.capAt pid other = some cap
  | .Receive slot => ∃ cap endpoint, view.HoldsEndpoint pid slot now Permissions.read cap endpoint
  | .CapGrant slot toPid perms =>
    view.Alive toPid ∧ ∃ cap, view.Holds pid slot now Permissions.grant cap ∧
      perms.isSubsetOf cap.permissions = true
  | .CapDerive slot perms =>
    ∃ cap, view.capSpaces.capAt pid slot = some cap ∧ perms.isSubsetOf cap.permissions = true
  | .CapRevoke slot | .CapDelete slot => ∃ cap, view.capSpaces.capAt pid slot = some cap
  | _ => True

end StateView

-- The calls that only read the state.
def Query : Syscall → Prop
  | .Debug _ | .ListCaps | .ListProcesses | .GetTime | .Yield | .CapInspect _ => True
  | _ => False

open StateView in
inductive Step (pid : ProcessId) (now : UInt64) (view : StateView) :
    Syscall → SyscallResult → StateView → Prop where
  | Refused (syscall : Syscall) (e : KernelError) (hno : ¬ view.Permits pid now syscall) :
      Step pid now view syscall (.Err e) view
  | Query (syscall : Syscall) (result : SyscallResult) (hquery : Query syscall) :
      Step pid now view syscall result view
  | Exit (code : Int32) :
      Step pid now view (.Exit code) (.Ok code.toInt64.toUInt64) (view.markZombie pid)
  | Kill (target : ProcessId) (hmem : target ∈ view.processes) :
      Step pid now view (.Kill target) (.Ok 0) (view.markZombie target)
  | CreateEndpoint (value : UInt64) (cspace : CapabilitySpace) (halive : view.Alive pid)
      (hspace : view.capSpaces[pid]? = some cspace) :
      Step pid now view .CreateEndpoint (.Ok value)
        ((view.addEndpoint pid).burnCapId.putSpace pid
          (cspace.insert (ownerCap view.nextCapId view.nextEndpointId)).2)
  -- A process without a space gets the endpoint and no capability.
  | CreateBare (value : UInt64) (halive : view.Alive pid) (hspace : view.capSpaces[pid]? = none) :
      Step pid now view .CreateEndpoint (.Ok value) (view.addEndpoint pid).burnCapId
  | Send (slot : CapSlot) (tag : UInt32) (data : List UInt8) (cap : Capability)
      (endpoint : Endpoint) (hsize : data.length ≤ MAX_MESSAGE_SIZE)
      (hheld : view.HoldsEndpoint pid slot now Permissions.write cap endpoint) :
      Step pid now view (.Send slot tag data) (.Ok 0)
        (view.putEndpoint cap.objectId (endpoint.enqueue ⟨pid, tag, data, []⟩))
  | Call (slot : CapSlot) (tag : UInt32) (data : List UInt8) (cap : Capability)
      (endpoint : Endpoint) (hsize : data.length ≤ MAX_MESSAGE_SIZE)
      (hheld : view.HoldsEndpoint pid slot now Permissions.write cap endpoint) :
      Step pid now view (.Call slot tag data) .WouldBlock
        (view.putEndpoint cap.objectId (endpoint.enqueue ⟨pid, tag, data, []⟩))
  | SendWithCaps (slot : CapSlot) (tag : UInt32) (data : List UInt8) (capSlots : List CapSlot)
      (cap : Capability) (endpoint : Endpoint) (cspace : CapabilitySpace)
      (caps : List TransferredCap) (hsize : data.length ≤ MAX_MESSAGE_SIZE)
      (hcount : capSlots.length ≤ MAX_CAPS_PER_MESSAGE)
      (hheld : view.HoldsEndpoint pid slot now Permissions.write cap endpoint)
      (hspace : view.capSpaces[pid]? = some cspace)
      (hcaps : KernelState.transferredCaps cspace capSlots = some caps) :
      Step pid now view (.SendWithCaps slot tag data capSlots) (.Ok 0)
        (view.putEndpoint cap.objectId (endpoint.enqueue ⟨pid, tag, data, caps⟩))
  | Receive (slot : CapSlot) (cap : Capability) (endpoint : Endpoint) (msg : Message)
      (hheld : view.HoldsEndpoint pid slot now Permissions.read cap endpoint)
      (hhead : endpoint.pendingMessages.head? = some msg) :
      Step pid now view (.Receive slot) (.Message msg)
        (view.putEndpoint cap.objectId endpoint.dequeue.2)
  | Empty (slot : CapSlot) (cap : Capability) (endpoint : Endpoint)
      (hheld : view.HoldsEndpoint pid slot now Permissions.read cap endpoint)
      (hempty : endpoint.pendingMessages = []) :
      Step pid now view (.Receive slot) .WouldBlock
        (view.putEndpoint cap.objectId endpoint.dequeue.2)
  | CapGrant (slot : CapSlot) (toPid : ProcessId) (perms : Permissions) (source : Capability)
      (cspace : CapabilitySpace) (hheld : view.Holds pid slot now Permissions.grant source)
      (halive : view.Alive toPid) (hsub : perms.isSubsetOf source.permissions = true)
      (hspace : view.capSpaces[toPid]? = some cspace) :
      Step pid now view (.CapGrant slot toPid perms) (.Ok cspace.nextSlot.toUInt64)
        (view.burnCapId.putSpace toPid (cspace.insert (source.child view.nextCapId perms)).2)
  -- The target has no space: an id is used up and the capability is lost.
  | GrantBare (slot : CapSlot) (toPid : ProcessId) (perms : Permissions) (source : Capability)
      (hheld : view.Holds pid slot now Permissions.grant source) (halive : view.Alive toPid)
      (hsub : perms.isSubsetOf source.permissions = true)
      (hspace : view.capSpaces[toPid]? = none) :
      Step pid now view (.CapGrant slot toPid perms) (.Ok 0) view.burnCapId
  | CapDerive (slot : CapSlot) (perms : Permissions) (source : Capability)
      (cspace : CapabilitySpace) (hheld : cspace.get slot = some source)
      (hsub : perms.isSubsetOf source.permissions = true)
      (hspace : view.capSpaces[pid]? = some cspace) :
      Step pid now view (.CapDerive slot perms) (.Ok cspace.nextSlot.toUInt64)
        (view.burnCapId.putSpace pid (cspace.insert (source.child view.nextCapId perms)).2)
  | CapRevoke (slot : CapSlot) (cap : Capability) (cspace : CapabilitySpace)
      (hspace : view.capSpaces[pid]? = some cspace) (hget : cspace.get slot = some cap) :
      Step pid now view (.CapRevoke slot) (.Ok 0) (view.putSpace pid (cspace.remove slot).2)
  | CapDelete (slot : CapSlot) (cap : Capability) (cspace : CapabilitySpace)
      (hspace : view.capSpaces[pid]? = some cspace) (hget : cspace.get slot = some cap) :
      Step pid now view (.CapDelete slot) (.Ok 0) (view.putSpace pid (cspace.remove slot).2)

end Core

end ZeroOS
