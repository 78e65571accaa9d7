import ZeroOS.Process.Mailbox
import ZeroOS.Vfs.StorageResult

/-!
The supervisor's side of storage (`supervisor/storage.rs`, `supervisor/ipc.rs`).
-/

namespace ZeroOS

-- What is logged on the way when a message does not go through.
inductive DeliveryFailure where
  | UnknownRequest (requestId : UInt32)
  | NoInitCapability
  | RouteFailed (error : KernelError)
  | NotReceived (error : RecvError)
  | NotSupervisor (fromPid : UInt32)
  | TooShort
  | Truncated
  | NoCapability (targetPid endpointSlot tag : UInt32)
  | SendFailed (targetPid endpointSlot : UInt32) (error : Int64)
  | ResultTooShort
deriving DecidableEq

def SERVICE_INPUT_SLOT : UInt32 := 1

def MSG_SUPERVISOR_IPC_DELIVERY : UInt32 := 0x2003

structure Supervisor where
  system : System
  hal : Hal
  initEndpointSlot : Option CapSlot
  pendingStorageRequests : BTreeMap UInt32 UInt64

def deliveryPayload (targetPid : UInt64) (endpointSlot tag : UInt32) (data : List UInt8) :
    List UInt8 :=
  (leBytes32 targetPid.toUInt32).toList ++ (leBytes32 endpointSlot).toList ++
    (leBytes32 tag).toList ++ leBytes16 (UInt16.ofNat data.length) ++ data

namespace Supervisor

variable (supervisor : Supervisor) (requestId : UInt32) (data : List UInt8)

-- The message that is in Init's queue afterwards, or what is logged.
def routeIpcViaInit (targetPid : UInt64) (endpointSlot tag : UInt32) (data : List UInt8) :
    Supervisor × Except DeliveryFailure Message :=
  match supervisor.initEndpointSlot with
  | none => (supervisor, .error .NoInitCapability)
  | some initSlot =>
    let payload := deliveryPayload targetPid endpointSlot tag data
    let supervisorPid : ProcessId := 0
    match supervisor.system.ipcSend supervisor.hal supervisorPid initSlot
        MSG_SUPERVISOR_IPC_DELIVERY payload with
    | (system, .error e) => ({ supervisor with system }, .error (.RouteFailed e))
    | (system, .ok ()) =>
      ({ supervisor with system },
        .ok
          { fromPid := supervisorPid
            tag := MSG_SUPERVISOR_IPC_DELIVERY
            data := payload
            transferredCaps := [] })

def deliverStorageResult (pid : UInt64) (payload : List UInt8) :
    Supervisor × Except DeliveryFailure Message :=
  supervisor.routeIpcViaInit pid SERVICE_INPUT_SLOT MSG_STORAGE_RESULT payload

-- The body that the handlers of storage notifications share.
def notifyStorage (resultType : UInt8) (data : List UInt8) :
    Supervisor × Except DeliveryFailure Message :=
  match supervisor.pendingStorageRequests[requestId]? with
  | none => (supervisor, .error (.UnknownRequest requestId))
  | some pid =>
    let supervisor := { supervisor with
      pendingStorageRequests := supervisor.pendingStorageRequests.erase requestId }
    supervisor.deliverStorageResult pid (StorageResult.payload ⟨requestId, resultType, data⟩)

def notifyStorageReadComplete : Supervisor × Except DeliveryFailure Message :=
  supervisor.notifyStorage requestId StorageResult.READ_OK data

end Supervisor

end ZeroOS
