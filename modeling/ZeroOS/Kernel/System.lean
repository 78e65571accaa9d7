import ZeroOS.Kernel.System.Dispatch

/-!
The system: the gateway and the kernel core behind one set of entry points.
-/

namespace ZeroOS

structure System where
  gateway : AxiomGateway
  kernel : KernelCore
  bootTime : UInt64

structure RevokeNotification where
  pid : ProcessId
  slot : CapSlot
  objectType : UInt8
  objectId : UInt64
  reason : UInt8
deriving DecidableEq

def RevokeNotification.empty : RevokeNotification := ⟨0, 0, 0, 0, 0⟩

namespace System

def new (hal : Hal) : System :=
  let bootTime := hal.nowNanos 0
  { gateway := AxiomGateway.new bootTime, kernel := KernelCore.new, bootTime }

def newForReplay : System :=
  { kernel := KernelCore.new, gateway := AxiomGateway.new 0, bootTime := 0 }

-- A saturating subtraction.
def uptimeNanos (system : System) (hal : Hal) : UInt64 :=
  if hal.nowNanos 0 ≥ system.bootTime then hal.nowNanos 0 - system.bootTime else 0

def commitlog (system : System) : CommitLog := system.gateway.commitlog

def recordCommits (system : System) (commits : List Commit) (timestamp : UInt64) : System :=
  { system with gateway := system.gateway.appendAll (commitTypesOf commits) timestamp }

def processSyscall (system : System) (hal : Hal) (sender : ProcessId) (syscallNum : UInt32)
    (args : SyscallArgs) (data : List UInt8) : System × Int64 × SyscallResult × List UInt8 :=
  let timestamp := system.uptimeNanos hal
  let (reqId, syslog) := system.gateway.syslog.logRequest sender syscallNum args timestamp
  let gateway := { system.gateway with syslog }
  let raw := system.kernel.executeSyscallKernelFn hal syscallNum sender args data timestamp
  let gateway := gateway.appendAll raw.commits timestamp
  let rich := raw.kernel.getSyscallRichResult sender syscallNum args raw.result timestamp
  let gateway := gateway.appendAll rich.commits timestamp
  let gateway := { gateway with
    syslog := gateway.syslog.logResponse sender reqId raw.result timestamp }
  let responseData := if raw.data ≠ [] then raw.data else rich.data
  ({ system with gateway, kernel := rich.kernel }, raw.result, rich.result, responseData)

def commitOutcome {α : Type} (system : System) (timestamp : UInt64) (outcome : Outcome α) :
    System × Except KernelError α :=
  (({ system with kernel := outcome.kernel }).recordCommits outcome.commits timestamp,
    outcome.result)

def registerProcess (system : System) (hal : Hal) (name : String) : System × ProcessId :=
  let timestamp := system.uptimeNanos hal
  let (kernel, pid, commits) := system.kernel.registerProcess name timestamp
  (({ system with kernel }).recordCommits commits timestamp, pid)

def registerProcessWithPid (system : System) (hal : Hal) (pid : ProcessId) (name : String) :
    System × ProcessId :=
  let timestamp := system.uptimeNanos hal
  let (kernel, resultPid, commits) := system.kernel.registerProcessWithPid pid name timestamp
  (({ system with kernel }).recordCommits commits timestamp, resultPid)

def killProcess (system : System) (hal : Hal) (pid : ProcessId) : System :=
  let timestamp := system.uptimeNanos hal
  let (kernel, commits) := system.kernel.killProcess pid timestamp
  ({ system with kernel }).recordCommits commits timestamp

def faultProcess (system : System) (hal : Hal) (pid : ProcessId) (reason : UInt32)
    (description : String) : System :=
  let timestamp := system.uptimeNanos hal
  let (kernel, commits) := system.kernel.faultProcess pid reason description timestamp
  ({ system with kernel }).recordCommits commits timestamp

def createEndpoint (system : System) (hal : Hal) (owner : ProcessId) :
    System × Except KernelError (EndpointId × CapSlot) :=
  let timestamp := system.uptimeNanos hal
  system.commitOutcome timestamp (system.kernel.createEndpoint owner timestamp)

def grantCapability (system : System) (hal : Hal) (fromPid : ProcessId) (fromSlot : CapSlot)
    (toPid : ProcessId) (perms : Permissions) : System × Except KernelError CapSlot :=
  let timestamp := system.uptimeNanos hal
  system.commitOutcome timestamp
    (system.kernel.grantCapability fromPid fromSlot toPid perms timestamp)

def grantCapabilityToEndpoint (system : System) (hal : Hal) (ownerPid : ProcessId)
    (endpointId : EndpointId) (toPid : ProcessId) (perms : Permissions) :
    System × Except KernelError CapSlot :=
  let timestamp := system.uptimeNanos hal
  system.commitOutcome timestamp
    (system.kernel.grantCapabilityToEndpoint ownerPid endpointId toPid perms timestamp)

def revokeCapability (system : System) (hal : Hal) (pid : ProcessId) (slot : CapSlot) :
    System × Except KernelError Unit :=
  let timestamp := system.uptimeNanos hal
  system.commitOutcome timestamp (system.kernel.revokeCapability pid slot timestamp)

def deleteCapability (system : System) (hal : Hal) (pid : ProcessId) (slot : CapSlot) :
    System × Except KernelError Unit :=
  let timestamp := system.uptimeNanos hal
  system.commitOutcome timestamp (system.kernel.deleteCapability pid slot timestamp)

def deleteCapabilityWithNotification (system : System) (hal : Hal) (pid : ProcessId)
    (slot : CapSlot) (reason : UInt8) : System × Except KernelError RevokeNotification :=
  let capInfo := (system.kernel.capSpaces[pid]?.bind fun cspace => cspace.get slot).map
    fun cap => (cap.objectType.toU8, cap.objectId)
  let (system, result) := system.deleteCapability hal pid slot
  match result with
  | .error e => (system, .error e)
  | .ok () =>
    match capInfo with
    | some (objectType, objectId) => (system, .ok ⟨pid, slot, objectType, objectId, reason⟩)
    | none => (system, .ok RevokeNotification.empty)

def deriveCapability (system : System) (hal : Hal) (pid : ProcessId) (slot : CapSlot)
    (newPerms : Permissions) : System × Except KernelError CapSlot :=
  let timestamp := system.uptimeNanos hal
  system.commitOutcome timestamp (system.kernel.deriveCapability pid slot newPerms timestamp)

-- The message goes to Init's first endpoint, with no capability check; the
-- endpoint's metrics are left alone.
def injectToInit (system : System) (hal : Hal) (tag : UInt32) (data : List UInt8) :
    System × Except KernelError Unit :=
  let timestamp := system.uptimeNanos hal
  let initPid : ProcessId := 1
  match system.kernel.endpoints.toList.find? fun (_, ep) => ep.owner == initPid with
  | none => (system, .error .EndpointNotFound)
  | some (initEndpoint, _) =>
    let message : Message := { fromPid := 0, tag, data, transferredCaps := [] }
    match system.kernel.endpoints[initEndpoint]? with
    | none => (system, .error .EndpointNotFound)
    | some endpoint =>
      let endpoint := { endpoint with
        pendingMessages := endpoint.pendingMessages ++ [message] }
      let kernel := { system.kernel with
        endpoints := system.kernel.endpoints.insert initEndpoint endpoint }
      let gateway := system.gateway.appendInternalCommit
        (.MessageSent 0 initEndpoint tag data.length) timestamp
      ({ system with kernel, gateway }, .ok ())

def ipcSend (system : System) (hal : Hal) (fromPid : ProcessId) (endpointSlot : CapSlot)
    (tag : UInt32) (data : List UInt8) : System × Except KernelError Unit :=
  let timestamp := system.uptimeNanos hal
  let (kernel, result, commit) := system.kernel.ipcSend fromPid endpointSlot tag data timestamp
  (({ system with kernel }).recordCommits commit.toList timestamp, result)

def ipcSendWithCaps (system : System) (hal : Hal) (fromPid : ProcessId) (endpointSlot : CapSlot)
    (tag : UInt32) (data : List UInt8) (capSlots : List CapSlot) :
    System × Except KernelError Unit :=
  let timestamp := system.uptimeNanos hal
  system.commitOutcome timestamp
    (system.kernel.ipcSendWithCaps fromPid endpointSlot tag data capSlots timestamp)

def ipcReceive (system : System) (hal : Hal) (pid : ProcessId) (endpointSlot : CapSlot) :
    System × Except KernelError (Option Message) :=
  let timestamp := system.uptimeNanos hal
  let (kernel, result) := system.kernel.ipcReceive pid endpointSlot timestamp
  ({ system with kernel }, result)

def ipcReceiveWithCaps (system : System) (hal : Hal) (pid : ProcessId) (endpointSlot : CapSlot) :
    System × Except KernelError (Option (Message × List CapSlot)) :=
  let timestamp := system.uptimeNanos hal
  system.commitOutcome timestamp (system.kernel.ipcReceiveWithCaps pid endpointSlot timestamp)

def handleSyscall (system : System) (hal : Hal) (pid : ProcessId) (syscall : Syscall) :
    System × SyscallResult :=
  let timestamp := system.uptimeNanos hal
  let outcome := system.kernel.handleSyscall pid syscall timestamp
  (({ system with kernel := outcome.kernel }).recordCommits outcome.commits timestamp,
    outcome.result)

def allocateMemory (system : System) (pid : ProcessId) (bytes : Nat) :
    System × Except KernelError Nat :=
  let (kernel, result) := system.kernel.allocateMemory pid bytes
  ({ system with kernel }, result)

def freeMemory (system : System) (pid : ProcessId) (bytes : Nat) :
    System × Except KernelError Nat :=
  let (kernel, result) := system.kernel.freeMemory pid bytes
  ({ system with kernel }, result)

def updateProcessMemory (system : System) (pid : ProcessId) (newSize : Nat) : System :=
  { system with kernel := system.kernel.updateProcessMemory pid newSize }

end System

end ZeroOS
