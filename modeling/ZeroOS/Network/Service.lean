import ZeroOS.Lib.Text
import ZeroOS.Vfs.Service

/-!
The network service (`services/network`).
-/

namespace ZeroOS

namespace Network

open Vfs (AppMessage)

def MSG_NET_REQUEST : UInt32 := 0x9000

def MSG_NET_RESPONSE : UInt32 := 0x9001

def MSG_NET_RESULT : UInt32 := 0x9002

def NET_OK : UInt8 := 0

def MAX_PENDING_OPS : Nat := 64

def TRUSTED_PIDS_FOR_NETWORK : List UInt32 := [0, 1, 7]

structure PendingRequest where
  clientPid : UInt32
  clientRequestId : UInt32
deriving DecidableEq

-- The result of the syscall that is made while one message is handled.
structure Syscalls where
  fetch : List UInt8 → Except Int64 Int64

inductive Effect where
  | Fetch (requestId : UInt32) (request : List UInt8)
  | Debug (text : String)
deriving DecidableEq

def lowerHex (word : UInt32) : String := String.ofList (Nat.toDigits 16 word.toNat)

variable (toPid requestId : UInt32) (body : List UInt8)

def responseText (data : List UInt8) : String :=
  String.ofList ("NET:RESPONSE:".toList ++ (toString toPid).toList ++
    ':' :: Text.hexWord MSG_NET_RESPONSE ++ ':' :: Text.hex data)

def responseData : List UInt8 :=
  (leBytes32 requestId).toList ++ body

def errorJson (errorMsg : String) : String :=
  let escaped := String.ofList (errorMsg.toList.flatMap fun c => if c = '"' then ['\\', '"'] else [c])
  "\x7b\"result\":\x7b\"Err\":\x7b\"Other\":\"" ++ escaped ++ "\"\x7d\x7d\x7d"

def sendResponse : Effect :=
  .Debug (responseText toPid (responseData requestId body))

def sendErrorResponse (errorMsg : String) : Effect :=
  .Debug (responseText toPid (responseData requestId (utf8Bytes (errorJson errorMsg))))

def checkNetworkPermission (fromPid : UInt32) : Bool := fromPid ∈ TRUSTED_PIDS_FOR_NETWORK

end Network

open Network

open Vfs (AppMessage)

structure NetworkService where
  pendingOps : BTreeMap UInt32 Network.PendingRequest
  nextRequestId : UInt32

namespace NetworkService

variable (lossy : List UInt8 → String) (sys : Network.Syscalls) (service : NetworkService)

def checkPendingLimit : Bool :=
  ¬ service.pendingOps.size ≥ Network.MAX_PENDING_OPS

def handleNetRequest (msg : AppMessage) : NetworkService × List Network.Effect :=
  let pid := msg.fromPid
  let length := msg.data.length
  let received : Network.Effect :=
    .Debug s!"NetworkService: Received request from PID {pid}, len={length}"
  let clientRequestId := service.nextRequestId
  let service := { service with nextRequestId := service.nextRequestId + 1 }
  if ¬ checkNetworkPermission msg.fromPid then
    (service, [received,
      .Debug s!"NetworkService: SECURITY - Network request denied for PID {pid} (not in trusted list)",
      sendErrorResponse msg.fromPid clientRequestId
        "Permission denied: MSG_NET_REQUEST requires network capability"])
  else if ¬ service.checkPendingLimit then
    let count := service.pendingOps.size
    (service, [received,
      .Debug s!"NetworkService: Pending operation limit reached ({count}/{MAX_PENDING_OPS})",
      sendErrorResponse msg.fromPid clientRequestId
        "Service busy: pending network operation limit reached"])
  else
    match sys.fetch msg.data with
    | .ok id =>
      let requestId := id.toUInt64.toUInt32
      ({ service with
          pendingOps := service.pendingOps.insert requestId ⟨msg.fromPid, clientRequestId⟩ },
        [received, .Fetch requestId msg.data,
          .Debug s!"NetworkService: network_fetch_async -> syscall_request_id={requestId}"])
    | .error e =>
      (service, [received, .Debug s!"NetworkService: network_fetch_async syscall failed: {e}",
        sendErrorResponse msg.fromPid clientRequestId
          s!"Network syscall failed: SYS_NETWORK_FETCH returned {e}"])

-- What the client is told about the end of its fetch. `lossy` reads bytes as text.
def forward (pending : Network.PendingRequest) (resultType : UInt8) (data : List UInt8) :
    Network.Effect :=
  if resultType = NET_OK then sendResponse pending.clientPid pending.clientRequestId data
  else
    let errorMsg := if data ≠ [] then lossy data else "Network error"
    sendErrorResponse pending.clientPid pending.clientRequestId errorMsg

def fetchCompleted (result : StorageResult) : NetworkService × List Network.Effect :=
  match service.pendingOps[result.requestId]? with
  | none =>
    let id := result.requestId
    (service, [.Debug s!"NetworkService: unknown request_id {id}"])
  | some pending =>
    ({ service with pendingOps := service.pendingOps.erase result.requestId },
      [forward lossy pending result.resultType result.data])

def handleNetResult (msg : AppMessage) : NetworkService × List Network.Effect :=
  match parseStorageResult msg.data with
  | none =>
    let length := msg.data.length
    (service, [.Debug
      s!"NetworkService: MSG_NET_RESULT payload too short (got {length} bytes, need 9)"])
  | some result =>
    let id := result.requestId
    let kind := result.resultType
    let length := leWord32 (msg.data.drop 5)
    let (service, effects) := service.fetchCompleted lossy result
    (service,
      .Debug s!"NetworkService: net result request_id={id}, type={kind}, data_len={length}" ::
        effects)

def onMessage (msg : AppMessage) : NetworkService × List Network.Effect :=
  let tag := lowerHex msg.tag
  let pid := msg.fromPid
  let (service, effects) :=
    if msg.tag = MSG_NET_REQUEST then service.handleNetRequest sys msg
    else if msg.tag = MSG_NET_RESULT then service.handleNetResult lossy msg
    else (service, [.Debug s!"NetworkService: Unknown message tag 0x{tag}"])
  (service, .Debug s!"NetworkService: Received message tag 0x{tag} from PID {pid}" :: effects)

end NetworkService

end ZeroOS
