import ZeroOS.Axiom.CommitLog
import ZeroOS.Kernel.Types

/-!
Types of the pure kernel core.
-/

namespace ZeroOS

def Permissions.isSubsetOf (perms other : Permissions) : Bool :=
  (!perms.read || other.read) && (!perms.write || other.write) && (!perms.grant || other.grant)

namespace Core

def MAX_MESSAGE_SIZE : Nat := 4096

def MAX_CAPS_PER_MESSAGE : Nat := 4

structure TransferredCap where
  capId : UInt64
  objectType : ObjectType
  objectId : UInt64
  permissions : Permissions
deriving DecidableEq

structure Message where
  sender : ProcessId
  tag : UInt32
  data : List UInt8
  caps : List TransferredCap
deriving DecidableEq

structure Endpoint where
  id : EndpointId
  owner : ProcessId
  pendingMessages : List Message
  metrics : EndpointMetrics
deriving DecidableEq

namespace Endpoint

def new (id : EndpointId) (owner : ProcessId) : Endpoint :=
  { id, owner, pendingMessages := [], metrics := {} }

def enqueue (endpoint : Endpoint) (msg : Message) : Endpoint :=
  let pendingMessages := endpoint.pendingMessages ++ [msg]
  let queueDepth := pendingMessages.length
  { endpoint with
    pendingMessages
    metrics := {
      queueDepth
      totalMessages := endpoint.metrics.totalMessages + 1
      totalBytes := endpoint.metrics.totalBytes + UInt64.ofNat msg.data.length
      queueHighWater :=
        if queueDepth > endpoint.metrics.queueHighWater then queueDepth
        else endpoint.metrics.queueHighWater } }

-- The depth is written back also when there was nothing to take.
def dequeue (endpoint : Endpoint) : Option Message × Endpoint :=
  let pendingMessages := endpoint.pendingMessages.tail
  (endpoint.pendingMessages.head?,
    { endpoint with
      pendingMessages
      metrics := { endpoint.metrics with queueDepth := pendingMessages.length } })

end Endpoint

structure CapInfo where
  id : UInt64
  objectType : UInt8
  objectId : UInt64
  permissions : UInt8
  generation : UInt32
  expiresAt : UInt64
deriving DecidableEq

inductive KernelError where
  | ProcessNotFound
  | EndpointNotFound
  | InvalidCapability
  | PermissionDenied
  | MessageTooLarge
  | TooManyCaps
  | InvalidArgument
  | ResourceExhausted
deriving DecidableEq

def KernelError.ofAxiomError : AxiomError → KernelError
  | .InvalidSlot => .InvalidCapability
  | .WrongType => .InvalidCapability
  | .InsufficientRights => .PermissionDenied
  | .Expired => .PermissionDenied
  | .ObjectNotFound => .InvalidCapability

inductive SyscallResult where
  | Ok (value : UInt64)
  | Err (error : KernelError)
  | Message (msg : Core.Message)
  | WouldBlock
  | CapList (caps : List (CapSlot × Capability))
  | CapInfo (info : Core.CapInfo)
  | ProcessList (procs : List (ProcessId × String × ProcessState))
deriving DecidableEq

inductive CommitType where
  | Genesis
  | ProcessRegistered (pid : UInt64) (name : String)
  | ProcessExited (pid : UInt64) (code : Int32)
  | ProcessKilled (pid killedBy : UInt64)
  | EndpointCreated (id owner : UInt64)
  | EndpointDeleted (id : UInt64)
  | IpcSent (fromPid endpoint : UInt64) (tag : UInt32) (size : Nat)
  | CapGranted (fromPid toPid : UInt64) (slot : CapSlot) (objectId : UInt64)
  | CapRevoked (pid : UInt64) (slot : CapSlot)
  | CapDeleted (pid : UInt64) (slot : CapSlot)
  | CapDerived (pid : UInt64) (fromSlot newSlot : CapSlot)
deriving DecidableEq

structure Commit where
  id : CommitId
  prevCommit : CommitId
  seq : UInt64
  timestamp : UInt64
  commitType : CommitType
  causedBy : Option UInt64
deriving DecidableEq

-- The hash, the predecessor and the number are left for a log to fill in.
def Commit.new (commitType : CommitType) (timestamp : UInt64) : Commit :=
  { id := zeroId, prevCommit := zeroId, seq := 0, timestamp, commitType, causedBy := none }

end Core

end ZeroOS
