import ZeroOS.Kernel.Process
import ZeroOS.Kernel.Endpoint
import ZeroOS.Kernel.Capability
import ZeroOS.Kernel.Ipc

/-!
The typed syscall dispatcher.
-/

namespace ZeroOS

-- What the dispatcher returns: the new state, the result for the caller and
-- the commits of the call.
structure SyscallOutcome where
  kernel : KernelCore
  result : SyscallResult
  commits : List Commit

-- Every handler maps an error of the operation to `Err`.
def Outcome.toSyscall {α : Type} (outcome : Outcome α) (onOk : α → SyscallResult) :
    SyscallOutcome :=
  { kernel := outcome.kernel
    result := match outcome.result with
      | .ok value => onOk value
      | .error e => .Err e
    commits := outcome.commits }

namespace KernelCore

variable (kernel : KernelCore) (fromPid : ProcessId) (timestamp : UInt64)

def updateSyscallMetrics : KernelCore :=
  { kernel with processes := kernel.processes.modify fromPid fun proc =>
      { proc with metrics := { proc.metrics with
          syscallCount := proc.metrics.syscallCount + 1
          lastActiveNs := timestamp } } }

def handleDebug : SyscallOutcome := ⟨kernel, .Ok 0, []⟩

def handleCreateEndpoint : SyscallOutcome :=
  (kernel.createEndpoint fromPid timestamp).toSyscall fun (eid, slot) =>
    .Ok ((slot.toUInt64 <<< 32) ||| (eid &&& 0xFFFFFFFF))

section

variable (endpointSlot slot : CapSlot) (tag : UInt32) (timestamp : UInt64)

def handleSend (data : List UInt8) (timestamp : UInt64) : SyscallOutcome :=
  let (kernel, result, commit) := kernel.ipcSend fromPid endpointSlot tag data timestamp
  Outcome.toSyscall ⟨kernel, result, commit.toList⟩ fun () => .Ok 0

def handleReceive : SyscallOutcome :=
  let (kernel, result) := kernel.ipcReceive fromPid endpointSlot timestamp
  Outcome.toSyscall ⟨kernel, result, []⟩ fun
    | some msg => .Message msg
    | none => .WouldBlock

def handleSendWithCaps (data : List UInt8) (capSlots : List CapSlot) (timestamp : UInt64) :
    SyscallOutcome :=
  (kernel.ipcSendWithCaps fromPid endpointSlot tag data capSlots timestamp).toSyscall
    fun () => .Ok 0

def handleCall (data : List UInt8) (timestamp : UInt64) : SyscallOutcome :=
  let (kernel, result, commit) := kernel.ipcSend fromPid endpointSlot tag data timestamp
  Outcome.toSyscall ⟨kernel, result, commit.toList⟩ fun () => .WouldBlock

def handleListCaps : SyscallOutcome :=
  ⟨kernel, .CapList ((kernel.capSpaces[fromPid]?.map CapabilitySpace.list).getD []), []⟩

def handleCapGrant (fromSlot : CapSlot) (toPid : ProcessId) (permissions : Permissions)
    (timestamp : UInt64) : SyscallOutcome :=
  (kernel.grantCapability fromPid fromSlot toPid permissions timestamp).toSyscall
    fun newSlot => .Ok newSlot.toUInt64

def handleCapRevoke : SyscallOutcome :=
  (kernel.revokeCapability fromPid slot timestamp).toSyscall fun () => .Ok 0

def handleCapDelete : SyscallOutcome :=
  (kernel.deleteCapability fromPid slot timestamp).toSyscall fun () => .Ok 0

def handleCapInspect : SyscallOutcome :=
  let result : SyscallResult :=
    match kernel.capSpaces[fromPid]? with
    | none => .Err .ProcessNotFound
    | some cspace =>
      match cspace.get slot with
      | none => .Err .InvalidCapability
      | some cap => .CapInfo cap
  ⟨kernel, result, []⟩

def handleCapDerive (newPermissions : Permissions) (timestamp : UInt64) : SyscallOutcome :=
  (kernel.deriveCapability fromPid slot newPermissions timestamp).toSyscall
    fun newSlot => .Ok newSlot.toUInt64

end

def handleListProcesses : SyscallOutcome :=
  ⟨kernel, .ProcessList (kernel.processes.toList.map fun (pid, p) => (pid, p.name, p.state)), []⟩

-- The exit is recorded whether or not the caller is registered.
def handleExit (code : Int32) (timestamp : UInt64) : SyscallOutcome :=
  ⟨{ kernel with processes := kernel.processes.modify fromPid fun proc =>
      { proc with state := .Zombie } },
    .Ok code.toInt64.toUInt64, [.draft timestamp (.ProcessExited fromPid code)]⟩

def handleKill (targetPid : ProcessId) (timestamp : UInt64) : SyscallOutcome :=
  (kernel.killProcessWithCapCheck fromPid targetPid timestamp).toSyscall fun () => .Ok 0

def dispatchSyscall (syscall : Syscall) (timestamp : UInt64) : SyscallOutcome :=
  match syscall with
  | .Debug _ => kernel.handleDebug
  | .CreateEndpoint => kernel.handleCreateEndpoint fromPid timestamp
  | .Send endpointSlot tag data => kernel.handleSend fromPid endpointSlot tag data timestamp
  | .Receive endpointSlot => kernel.handleReceive fromPid endpointSlot timestamp
  | .SendWithCaps endpointSlot tag data capSlots =>
    kernel.handleSendWithCaps fromPid endpointSlot tag data capSlots timestamp
  | .Call endpointSlot tag data => kernel.handleCall fromPid endpointSlot tag data timestamp
  | .ListCaps => kernel.handleListCaps fromPid
  | .CapGrant fromSlot toPid permissions =>
    kernel.handleCapGrant fromPid fromSlot toPid permissions timestamp
  | .CapRevoke slot => kernel.handleCapRevoke fromPid slot timestamp
  | .CapDelete slot => kernel.handleCapDelete fromPid slot timestamp
  | .CapInspect slot => kernel.handleCapInspect fromPid slot
  | .CapDerive slot newPermissions => kernel.handleCapDerive fromPid slot newPermissions timestamp
  | .ListProcesses => kernel.handleListProcesses
  | .Exit code => kernel.handleExit fromPid code timestamp
  | .Kill targetPid => kernel.handleKill fromPid targetPid timestamp
  | .GetTime => ⟨kernel, .Ok timestamp, []⟩
  | .Yield => ⟨kernel, .Ok 0, []⟩

-- The caller's metrics are updated first, whatever the call then does.
def handleSyscall (syscall : Syscall) (timestamp : UInt64) : SyscallOutcome :=
  (kernel.updateSyscallMetrics fromPid timestamp).dispatchSyscall fromPid syscall timestamp

end KernelCore

-- One call of a run, with the process that makes it and the time at which it does.
structure TypedCall where
  pid : ProcessId
  syscall : Syscall
  now : UInt64

def KernelCore.typedStep (kernel : KernelCore) (call : TypedCall) : KernelCore :=
  (kernel.handleSyscall call.pid call.syscall call.now).kernel

end ZeroOS
