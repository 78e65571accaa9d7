import ZeroOS.Kernel.Core

/-!
Sending and receiving messages, with and without capability transfer.
-/

namespace ZeroOS

def validateMessageLimits (dataLen capCount : Nat) : Except KernelError Unit :=
  if dataLen > MAX_MESSAGE_SIZE then .error .PermissionDenied
  else if capCount > MAX_CAPS_PER_MESSAGE then .error .PermissionDenied
  else .ok ()

namespace KernelCore

section

variable (kernel : KernelCore) (fromPid : ProcessId) (endpointSlot : CapSlot)

def validateSendCap (timestamp : UInt64) : Except KernelError EndpointId :=
  match kernel.capSpaces[fromPid]? with
  | none => .error .ProcessNotFound
  | some cspace =>
    ((axiomCheck cspace endpointSlot Permissions.writeOnly (some .Endpoint) timestamp).mapError
      mapAxiomError).map Capability.objectId

-- The check of a send with capabilities: no expiry is looked at.
def validateSendCapBasic : Except KernelError EndpointId :=
  match kernel.capSpaces[fromPid]? with
  | none => .error .ProcessNotFound
  | some cspace =>
    match cspace.get endpointSlot with
    | none => .error .InvalidCapability
    | some cap =>
      if cap.objectType ≠ .Endpoint ∨ !cap.permissions.write then .error .PermissionDenied
      else .ok cap.objectId

def validateReceiveCap (pid : ProcessId) (endpointSlot : CapSlot) (timestamp : UInt64) :
    Except KernelError EndpointId :=
  match kernel.capSpaces[pid]? with
  | none => .error .ProcessNotFound
  | some cspace =>
    ((axiomCheck cspace endpointSlot Permissions.readOnly (some .Endpoint) timestamp).mapError
      mapAxiomError).map Capability.objectId

def validateCapsExist (pid : ProcessId) (slots : List CapSlot) : Except KernelError Unit :=
  match kernel.capSpaces[pid]? with
  | none => .error .ProcessNotFound
  | some cspace =>
    if slots.all fun slot => (cspace.get slot).isSome then .ok () else .error .InvalidCapability

end

-- The loop of `remove_and_transfer_caps`: a slot that is already empty is skipped.
def transferLoop (fromPid : ProcessId) (timestamp : UInt64) :
    List CapSlot → CapabilitySpace → List TransferredCap → List Commit →
      CapabilitySpace × List TransferredCap × List Commit
  | [], cspace, transferred, commits => (cspace, transferred, commits)
  | slot :: rest, cspace, transferred, commits =>
    match cspace.remove slot with
    | (none, cspace) => transferLoop fromPid timestamp rest cspace transferred commits
    | (some cap, cspace) =>
      transferLoop fromPid timestamp rest cspace
        (transferred ++ [{ capability := cap, receiverSlot := none }])
        (commits ++ [.draft timestamp (.CapRemoved fromPid slot)])

section

variable (kernel : KernelCore) (fromPid : ProcessId) (endpointSlot : CapSlot)

def removeAndTransferCaps (capSlots : List CapSlot) (timestamp : UInt64) :
    KernelCore × Except KernelError (List TransferredCap × List Commit) :=
  match kernel.capSpaces[fromPid]? with
  | none => (kernel, .error .ProcessNotFound)
  | some cspace =>
    let (cspace, transferred, commits) := transferLoop fromPid timestamp capSlots cspace [] []
    ({ kernel with capSpaces := kernel.capSpaces.insert fromPid cspace },
      .ok (transferred, commits))

-- The loop of `install_transferred_caps`.
def installLoop (pid : ProcessId) (timestamp : UInt64) :
    List TransferredCap → CapabilitySpace → List CapSlot → List Commit →
      CapabilitySpace × List CapSlot × List Commit
  | [], cspace, installed, commits => (cspace, installed, commits)
  | tcap :: rest, cspace, installed, commits =>
    let (slot, cspace) := cspace.insert tcap.capability
    installLoop pid timestamp rest cspace (installed ++ [slot])
      (commits ++ [.draft timestamp (.CapInserted pid slot tcap.capability.id
        tcap.capability.objectType.toU8 tcap.capability.objectId
        tcap.capability.permissions.toByte)])

def installTransferredCaps (pid : ProcessId) (transferredCaps : List TransferredCap)
    (timestamp : UInt64) : KernelCore × Except KernelError (List CapSlot × List Commit) :=
  match kernel.capSpaces[pid]? with
  | none => (kernel, .error .ProcessNotFound)
  | some cspace =>
    let (cspace, installed, commits) := installLoop pid timestamp transferredCaps cspace [] []
    ({ kernel with capSpaces := kernel.capSpaces.insert pid cspace }, .ok (installed, commits))

def queueMessage (endpointId : EndpointId) (message : Message) :
    KernelCore × Except KernelError Unit :=
  match kernel.endpoints[endpointId]? with
  | none => (kernel, .error .EndpointNotFound)
  | some endpoint =>
    let endpoint := { endpoint with pendingMessages := endpoint.pendingMessages ++ [message] }
    ({ kernel with endpoints := kernel.endpoints.insert endpointId endpoint }, .ok ())

def sentMetrics (metrics : EndpointMetrics) (depth dataLen : Nat) : EndpointMetrics :=
  { queueDepth := depth
    totalMessages := metrics.totalMessages + 1
    totalBytes := metrics.totalBytes + UInt64.ofNat dataLen
    queueHighWater := if depth > metrics.queueHighWater then depth else metrics.queueHighWater }

def updateSendMetrics (endpointId : EndpointId) (dataLen : Nat) (timestamp : UInt64) : KernelCore :=
  { kernel with
    endpoints := kernel.endpoints.modify endpointId fun endpoint =>
      { endpoint with
        metrics := sentMetrics endpoint.metrics endpoint.pendingMessages.length dataLen }
    processes := kernel.processes.modify fromPid fun sender =>
      { sender with metrics := { sender.metrics with
          ipcSent := sender.metrics.ipcSent + 1
          ipcBytesSent := sender.metrics.ipcBytesSent + UInt64.ofNat dataLen
          lastActiveNs := timestamp } }
    totalIpcCount := kernel.totalIpcCount + 1 }

def ipcSend (tag : UInt32) (data : List UInt8) (timestamp : UInt64) :
    KernelCore × Except KernelError Unit × Option Commit :=
  match kernel.validateSendCap fromPid endpointSlot timestamp with
  | .error e => (kernel, .error e, none)
  | .ok endpointId =>
    let message : Message := { fromPid, tag, data, transferredCaps := [] }
    match kernel.queueMessage endpointId message with
    | (kernel, .error e) => (kernel, .error e, none)
    | (kernel, .ok ()) =>
      let kernel := kernel.updateSendMetrics fromPid endpointId data.length timestamp
      (kernel, .ok (), some (.draft timestamp (.MessageSent fromPid endpointId tag data.length)))

def ipcSendWithCaps (tag : UInt32) (data : List UInt8) (capSlots : List CapSlot)
    (timestamp : UInt64) : Outcome Unit :=
  match validateMessageLimits data.length capSlots.length with
  | .error e => ⟨kernel, .error e, []⟩
  | .ok () =>
  match kernel.validateSendCapBasic fromPid endpointSlot with
  | .error e => ⟨kernel, .error e, []⟩
  | .ok endpointId =>
  if endpointId ∉ kernel.endpoints then ⟨kernel, .error .EndpointNotFound, []⟩
  else
  match kernel.validateCapsExist fromPid capSlots with
  | .error e => ⟨kernel, .error e, []⟩
  | .ok () =>
  match kernel.removeAndTransferCaps fromPid capSlots timestamp with
  | (kernel, .error e) => ⟨kernel, .error e, []⟩
  | (kernel, .ok (transferredCaps, commits)) =>
  let message : Message := { fromPid, tag, data, transferredCaps }
  match kernel.queueMessage endpointId message with
  | (kernel, .error e) => ⟨kernel, .error e, commits⟩
  | (kernel, .ok ()) =>
    ⟨kernel.updateSendMetrics fromPid endpointId data.length timestamp, .ok (), commits⟩

end

variable (kernel : KernelCore) (pid : ProcessId) (endpointSlot : CapSlot)

def updateReceiveMetrics (dataLen : Nat) (timestamp : UInt64) : KernelCore :=
  { kernel with processes := kernel.processes.modify pid fun receiver =>
      { receiver with metrics := { receiver.metrics with
          ipcReceived := receiver.metrics.ipcReceived + 1
          ipcBytesReceived := receiver.metrics.ipcBytesReceived + UInt64.ofNat dataLen
          lastActiveNs := timestamp } } }

def ipcReceive (timestamp : UInt64) : KernelCore × Except KernelError (Option Message) :=
  match kernel.validateReceiveCap pid endpointSlot timestamp with
  | .error e => (kernel, .error e)
  | .ok endpointId =>
    match kernel.endpoints[endpointId]? with
    | none => (kernel, .error .EndpointNotFound)
    | some endpoint =>
      match endpoint.pendingMessages with
      | [] => (kernel, .ok none)
      | msg :: rest =>
        let endpoint := { endpoint with
          pendingMessages := rest
          metrics := { endpoint.metrics with queueDepth := rest.length } }
        let kernel := { kernel with
          endpoints := kernel.endpoints.insert endpointId endpoint }
        (kernel.updateReceiveMetrics pid msg.data.length timestamp, .ok (some msg))

def ipcReceiveWithCaps (timestamp : UInt64) : Outcome (Option (Message × List CapSlot)) :=
  match kernel.ipcReceive pid endpointSlot timestamp with
  | (kernel, .error e) => ⟨kernel, .error e, []⟩
  | (kernel, .ok none) => ⟨kernel, .ok none, []⟩
  | (kernel, .ok (some message)) =>
    if message.transferredCaps = [] then ⟨kernel, .ok (some (message, [])), []⟩
    else
      match kernel.installTransferredCaps pid message.transferredCaps timestamp with
      | (kernel, .error e) => ⟨kernel, .error e, []⟩
      | (kernel, .ok (installedSlots, commits)) =>
        ⟨kernel, .ok (some (message, installedSlots)), commits⟩

end KernelCore

end ZeroOS
