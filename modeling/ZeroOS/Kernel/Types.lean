import ZeroOS.Axiom.Capability

/-!
Processes, endpoints, messages and the typed syscall interface.
-/

namespace ZeroOS

inductive HalError where
  | OutOfMemory
  | ProcessSpawnFailed
  | ProcessNotFound
  | InvalidMessage
  | NotSupported
  | IoError
  | InvalidArgument
  | StorageError
  | ResourceExhausted
  | NotFound
  | InvalidBinary
deriving DecidableEq

inductive KernelError where
  | ProcessNotFound
  | EndpointNotFound
  | InvalidCapability
  | PermissionDenied
  | WouldBlock
  | Hal (error : HalError)
deriving DecidableEq

inductive ProcessState where
  | Running
  | Blocked
  | Zombie
deriving DecidableEq

structure ProcessMetrics where
  memorySize : Nat := 0
  ipcSent : UInt64 := 0
  ipcReceived : UInt64 := 0
  ipcBytesSent : UInt64 := 0
  ipcBytesReceived : UInt64 := 0
  syscallCount : UInt64 := 0
  lastActiveNs : UInt64 := 0
  startTimeNs : UInt64 := 0
deriving DecidableEq

structure Process where
  pid : ProcessId
  name : String
  state : ProcessState
  metrics : ProcessMetrics
deriving DecidableEq

structure EndpointMetrics where
  queueDepth : Nat := 0
  totalMessages : UInt64 := 0
  totalBytes : UInt64 := 0
  queueHighWater : Nat := 0
deriving DecidableEq

def MAX_CAPS_PER_MESSAGE : Nat := 8

def MAX_MESSAGE_SIZE : Nat := 16384

structure TransferredCap where
  capability : Capability
  receiverSlot : Option CapSlot
deriving DecidableEq

structure Message where
  fromPid : ProcessId
  tag : UInt32
  data : List UInt8
  transferredCaps : List TransferredCap
deriving DecidableEq

structure Endpoint where
  id : EndpointId
  owner : ProcessId
  pendingMessages : List Message
  metrics : EndpointMetrics
deriving DecidableEq

inductive Syscall where
  | Debug (msg : String)
  | CreateEndpoint
  | Send (endpointSlot : CapSlot) (tag : UInt32) (data : List UInt8)
  | Receive (endpointSlot : CapSlot)
  | ListCaps
  | ListProcesses
  | Exit (code : Int32)
  | GetTime
  | Yield
  | CapGrant (fromSlot : CapSlot) (toPid : ProcessId) (permissions : Permissions)
  | CapRevoke (slot : CapSlot)
  | CapDelete (slot : CapSlot)
  | CapInspect (slot : CapSlot)
  | CapDerive (slot : CapSlot) (newPermissions : Permissions)
  | SendWithCaps (endpointSlot : CapSlot) (tag : UInt32) (data : List UInt8)
      (capSlots : List CapSlot)
  | Call (endpointSlot : CapSlot) (tag : UInt32) (data : List UInt8)
  | Kill (targetPid : ProcessId)
deriving DecidableEq

inductive SyscallResult where
  | Ok (value : UInt64)
  | Err (error : KernelError)
  | Message (msg : ZeroOS.Message)
  | MessageWithCaps (msg : ZeroOS.Message) (slots : List CapSlot)
  | WouldBlock
  -- `CapInfo` has the fields of the capability it is made from.
  | CapInfo (cap : Capability)
  | CapList (caps : List (CapSlot × Capability))
  | ProcessList (procs : List (ProcessId × String × ProcessState))
deriving DecidableEq

end ZeroOS
