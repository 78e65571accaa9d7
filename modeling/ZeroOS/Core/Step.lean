import ZeroOS.Core.State

/-!
The pure step function: one syscall of one process.
-/

namespace ZeroOS.Core

structure StepResult where
  state : KernelState
  result : SyscallResult
  commits : List Commit

namespace KernelState

variable (state : KernelState) (fromPid : ProcessId) (syscall : Syscall)

-- An early return of a handler.
def refuse (e : KernelError) : StepResult := ⟨state, .Err e, []⟩

def stepExit (code : Int32) (timestamp : UInt64) : StepResult :=
  ⟨{ state with processes := state.processes.modify fromPid fun proc =>
      { proc with state := .Zombie } },
    .Ok code.toInt64.toUInt64, [.new (.ProcessExited fromPid code) timestamp]⟩

def stepKill (targetPid : ProcessId) (timestamp : UInt64) : StepResult :=
  if targetPid ∉ state.processes then state.refuse .ProcessNotFound
  else ⟨state.killProcess targetPid, .Ok 0, [.new (.ProcessKilled targetPid fromPid) timestamp]⟩

def stepListProcesses : StepResult :=
  ⟨state, .ProcessList (state.processes.toList.map fun (pid, p) => (pid, p.name, p.state)), []⟩

section

variable (endpointSlot : CapSlot) (tag : UInt32) (data : List UInt8) (timestamp : UInt64)

def stepCreateEndpoint : StepResult :=
  if !state.processExists fromPid then state.refuse .ProcessNotFound
  else
    let (endpointId, state) := state.allocEndpointId
    let endpoint := Endpoint.new endpointId fromPid
    let state := { state with endpoints := state.endpoints.insert endpointId endpoint }
    let (capId, state) := state.allocCapId
    let cap : Capability :=
      { id := capId, objectType := .Endpoint, objectId := endpointId,
        permissions := Permissions.full, generation := 0, expiresAt := 0 }
    let (slot, state) := state.insertCap fromPid cap
    ⟨state, .Ok ((slot.toUInt64 <<< 32) ||| (endpointId &&& 0xFFFFFFFF)),
      [.new (.EndpointCreated endpointId fromPid) timestamp]⟩

def stepSend : StepResult :=
  if data.length > MAX_MESSAGE_SIZE then state.refuse .MessageTooLarge
  else
  match state.capSpaces[fromPid]? with
  | none => state.refuse .ProcessNotFound
  | some cspace =>
  match axiomCheck cspace endpointSlot Permissions.writeOnly (some .Endpoint) timestamp with
  | .error e => state.refuse (.ofAxiomError e)
  | .ok cap =>
  let endpointId := cap.objectId
  match state.endpoints[endpointId]? with
  | none => state.refuse .EndpointNotFound
  | some endpoint =>
    let msg : Message := { sender := fromPid, tag, data, caps := [] }
    ⟨{ state with
        endpoints := state.endpoints.insert endpointId (endpoint.enqueue msg)
        processes := state.processes.modify fromPid fun proc =>
          { proc with metrics := { proc.metrics with
              ipcSent := proc.metrics.ipcSent + 1
              ipcBytesSent := proc.metrics.ipcBytesSent + UInt64.ofNat data.length } }
        totalIpcCount := state.totalIpcCount + 1 },
      .Ok 0, [.new (.IpcSent fromPid endpointId tag data.length) timestamp]⟩

def stepReceive : StepResult :=
  match state.capSpaces[fromPid]? with
  | none => state.refuse .ProcessNotFound
  | some cspace =>
  match axiomCheck cspace endpointSlot Permissions.readOnly (some .Endpoint) timestamp with
  | .error e => state.refuse (.ofAxiomError e)
  | .ok cap =>
  let endpointId := cap.objectId
  match state.endpoints[endpointId]? with
  | none => state.refuse .EndpointNotFound
  | some endpoint =>
    let (taken, endpoint) := endpoint.dequeue
    let state := { state with endpoints := state.endpoints.insert endpointId endpoint }
    match taken with
    | some msg =>
      ⟨{ state with processes := state.processes.modify fromPid fun proc =>
          { proc with metrics := { proc.metrics with
              ipcReceived := proc.metrics.ipcReceived + 1
              ipcBytesReceived :=
                proc.metrics.ipcBytesReceived + UInt64.ofNat msg.data.length } } },
        .Message msg, []⟩
    | none => ⟨state, .WouldBlock, []⟩

-- The loop that collects the capabilities to transfer: `none` is its early return.
def transferredCaps (cspace : CapabilitySpace) : List CapSlot → Option (List TransferredCap)
  | [] => some []
  | slot :: rest =>
    match cspace.get slot with
    | none => none
    | some cap =>
      (transferredCaps cspace rest).map fun collected =>
        { capId := cap.id, objectType := cap.objectType, objectId := cap.objectId,
          permissions := cap.permissions } :: collected

def stepSendWithCaps (capSlots : List CapSlot) (timestamp : UInt64) : StepResult :=
  if data.length > MAX_MESSAGE_SIZE then state.refuse .MessageTooLarge
  else if capSlots.length > MAX_CAPS_PER_MESSAGE then state.refuse .TooManyCaps
  else
  match state.capSpaces[fromPid]? with
  | none => state.refuse .ProcessNotFound
  | some cspace =>
  match axiomCheck cspace endpointSlot Permissions.writeOnly (some .Endpoint) timestamp with
  | .error e => state.refuse (.ofAxiomError e)
  | .ok endpointCap =>
  match transferredCaps cspace capSlots with
  | none => state.refuse .InvalidCapability
  | some caps =>
  let endpointId := endpointCap.objectId
  match state.endpoints[endpointId]? with
  | none => state.refuse .EndpointNotFound
  | some endpoint =>
    let msg : Message := { sender := fromPid, tag, data, caps }
    ⟨{ state with
        endpoints := state.endpoints.insert endpointId (endpoint.enqueue msg)
        totalIpcCount := state.totalIpcCount + 1 },
      .Ok 0, [.new (.IpcSent fromPid endpointId tag data.length) timestamp]⟩

def stepCall : StepResult :=
  let sendResult := state.stepSend fromPid endpointSlot tag data timestamp
  match sendResult.result with
  | .Ok _ => { sendResult with result := .WouldBlock }
  | _ => sendResult

end

def stepListCaps : StepResult :=
  ⟨state, .CapList ((state.capSpaces[fromPid]?.map CapabilitySpace.list).getD []), []⟩

def stepCapGrant (fromSlot : CapSlot) (toPid : ProcessId) (permissions : Permissions)
    (timestamp : UInt64) : StepResult :=
  match state.capSpaces[fromPid]? with
  | none => state.refuse .ProcessNotFound
  | some cspace =>
  match axiomCheck cspace fromSlot ⟨false, false, true⟩ none timestamp with
  | .error e => state.refuse (.ofAxiomError e)
  | .ok sourceCap =>
  if !state.processExists toPid then state.refuse .ProcessNotFound
  else if !permissions.isSubsetOf sourceCap.permissions then state.refuse .PermissionDenied
  else
    let (capId, state) := state.allocCapId
    let newCap : Capability :=
      { id := capId, objectType := sourceCap.objectType, objectId := sourceCap.objectId,
        permissions, generation := sourceCap.generation + 1, expiresAt := sourceCap.expiresAt }
    let (newSlot, state) := state.insertCap toPid newCap
    ⟨state, .Ok newSlot.toUInt64,
      [.new (.CapGranted fromPid toPid newSlot sourceCap.objectId) timestamp]⟩

def stepCapRevoke (slot : CapSlot) (timestamp : UInt64) : StepResult :=
  match state.removeCap fromPid slot with
  | (some _, state) => ⟨state, .Ok 0, [.new (.CapRevoked fromPid slot) timestamp]⟩
  | (none, state) => ⟨state, .Err .InvalidCapability, []⟩

def stepCapDelete (slot : CapSlot) (timestamp : UInt64) : StepResult :=
  match state.removeCap fromPid slot with
  | (some _, state) => ⟨state, .Ok 0, [.new (.CapDeleted fromPid slot) timestamp]⟩
  | (none, state) => ⟨state, .Err .InvalidCapability, []⟩

def stepCapInspect (slot : CapSlot) : StepResult :=
  match state.capSpaces[fromPid]? with
  | none => state.refuse .ProcessNotFound
  | some cspace =>
    match cspace.get slot with
    | none => state.refuse .InvalidCapability
    | some cap =>
      ⟨state, .CapInfo {
        id := cap.id, objectType := cap.objectType.toU8, objectId := cap.objectId,
        permissions := cap.permissions.toByte, generation := cap.generation,
        expiresAt := cap.expiresAt }, []⟩

-- The source is looked up in the space directly; nothing asks whether it has expired.
def stepCapDerive (slot : CapSlot) (newPermissions : Permissions) (timestamp : UInt64) :
    StepResult :=
  match state.capSpaces[fromPid]? with
  | none => state.refuse .ProcessNotFound
  | some cspace =>
  match cspace.get slot with
  | none => state.refuse .InvalidCapability
  | some sourceCap =>
  if !newPermissions.isSubsetOf sourceCap.permissions then state.refuse .PermissionDenied
  else
    let (capId, state) := state.allocCapId
    let newCap : Capability :=
      { id := capId, objectType := sourceCap.objectType, objectId := sourceCap.objectId,
        permissions := newPermissions, generation := sourceCap.generation + 1,
        expiresAt := sourceCap.expiresAt }
    let (newSlot, state) := state.insertCap fromPid newCap
    ⟨state, .Ok newSlot.toUInt64, [.new (.CapDerived fromPid slot newSlot) timestamp]⟩

def dispatch (timestamp : UInt64) : StepResult :=
  match syscall with
  | .Debug _ => ⟨state, .Ok 0, []⟩
  | .GetTime => ⟨state, .Ok timestamp, []⟩
  | .Yield => ⟨state, .Ok 0, []⟩
  | .Exit code => state.stepExit fromPid code timestamp
  | .Kill targetPid => state.stepKill fromPid targetPid timestamp
  | .ListProcesses => state.stepListProcesses
  | .CreateEndpoint => state.stepCreateEndpoint fromPid timestamp
  | .Send endpointSlot tag data => state.stepSend fromPid endpointSlot tag data timestamp
  | .Receive endpointSlot => state.stepReceive fromPid endpointSlot timestamp
  | .SendWithCaps endpointSlot tag data capSlots =>
    state.stepSendWithCaps fromPid endpointSlot tag data capSlots timestamp
  | .Call endpointSlot tag data => state.stepCall fromPid endpointSlot tag data timestamp
  | .ListCaps => state.stepListCaps fromPid
  | .CapGrant fromSlot toPid permissions =>
    state.stepCapGrant fromPid fromSlot toPid permissions timestamp
  | .CapRevoke slot => state.stepCapRevoke fromPid slot timestamp
  | .CapDelete slot => state.stepCapDelete fromPid slot timestamp
  | .CapInspect slot => state.stepCapInspect fromPid slot
  | .CapDerive slot newPermissions => state.stepCapDerive fromPid slot newPermissions timestamp

-- The caller's metrics are updated first, whatever the call then does.
def step (timestamp : UInt64) : StepResult :=
  (state.updateSyscallMetrics fromPid timestamp).dispatch fromPid syscall timestamp

end KernelState

end ZeroOS.Core
