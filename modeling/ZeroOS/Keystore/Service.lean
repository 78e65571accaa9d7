import ZeroOS.Vfs.Service

/-!
The keystore service (`services/keystore`).
-/

namespace ZeroOS

namespace Keystore

open Vfs (AppMessage ClientContext AppError StorageCall)

def MAX_PENDING_OPS : Nat := 256

def MAX_CONTENT_SIZE : Nat := 1024 * 1024

def MSG_KEYSTORE_RESULT : UInt32 := 0x81

def MSG_KEYSTORE_READ : UInt32 := 0xA000

def MSG_KEYSTORE_READ_RESPONSE : UInt32 := 0xA001

def MSG_KEYSTORE_WRITE : UInt32 := 0xA002

def MSG_KEYSTORE_WRITE_RESPONSE : UInt32 := 0xA003

def MSG_KEYSTORE_DELETE : UInt32 := 0xA004

def MSG_KEYSTORE_DELETE_RESPONSE : UInt32 := 0xA005

def MSG_KEYSTORE_EXISTS : UInt32 := 0xA006

def MSG_KEYSTORE_EXISTS_RESPONSE : UInt32 := 0xA007

def MSG_KEYSTORE_LIST : UInt32 := 0xA008

def MSG_KEYSTORE_LIST_RESPONSE : UInt32 := 0xA009

inductive KeystoreError where
  | InvalidKey (reason : String)
  | InvalidRequest (reason : String)
  | NotFound
  | StorageError (reason : String)
  | ResourceExhausted
deriving DecidableEq

-- The requests to read, delete and test, which name a key.
structure KeyRequest where
  key : String
deriving DecidableEq

structure WriteRequest where
  key : String
  value : List UInt8
deriving DecidableEq

structure ListRequest where
  keyStart : String
deriving DecidableEq

inductive Response where
  | Read (result : Except KeystoreError (List UInt8))
  | Write (result : Except KeystoreError Unit)
  | Delete (result : Except KeystoreError Unit)
  | Exists (result : Except KeystoreError Bool)
  | List (result : Except KeystoreError (List String))
deriving DecidableEq

def Response.isOk : Response → Bool
  | Read result => result.isOk
  | Write result => result.isOk
  | Delete result => result.isOk
  | Exists result => result.isOk
  | List result => result.isOk

-- What `serde_json` provides. Every response can be written.
structure Serde where
  readRequest : List UInt8 → Except String KeyRequest
  writeRequest : List UInt8 → Except String WriteRequest
  deleteRequest : List UInt8 → Except String KeyRequest
  existsRequest : List UInt8 → Except String KeyRequest
  listRequest : List UInt8 → Except String ListRequest
  keysFromSlice : List UInt8 → Except String (List String)
  responseToVec : Response → Except String (List UInt8)
  responseToVec_ok : ∀ response, ∃ bytes, responseToVec response = .ok bytes

inductive PendingOp where
  | Read (ctx : ClientContext) (key : String)
  | Write (ctx : ClientContext) (key : String)
  | Delete (ctx : ClientContext) (key : String)
  | Exists (ctx : ClientContext) (key : String)
  | List (ctx : ClientContext) (keyStart : String)
deriving DecidableEq

-- The results of the syscalls that are made while one message is handled.
structure Syscalls where
  keystore : StorageCall → Except Int64 Int64
  send : UInt32 → UInt32 → List UInt8 → Except UInt32 Unit

inductive Action where
  | Respond (ctx : ClientContext) (tag : UInt32) (response : Response)
  | RespondViaDebug (toPid : UInt32) (tag : UInt32) (response : Response)
  | Start (call : StorageCall) (op : PendingOp)
  | Done
deriving DecidableEq

inductive Effect where
  | Issue (requestId : UInt32) (call : StorageCall)
  | Reply (slot : UInt32) (tag : UInt32) (response : Response)
  | DebugResponse (toPid : UInt32) (tag : UInt32) (response : Response)
deriving DecidableEq

def validateKey (key : String) : Except KeystoreError Unit :=
  if key.toList = [] then .error (.InvalidKey "Key cannot be empty")
  else if ¬ "/keys/".toList <+: key.toList then .error (.InvalidKey "Key must start with /keys/")
  else if '\x00' ∈ key.toList then .error (.InvalidKey "Key cannot contain null bytes")
  else .ok ()

def handleKeyed (parse : List UInt8 → Except String KeyRequest) (tag : UInt32)
    (failure : KeystoreError → Response) (call : String → StorageCall)
    (op : ClientContext → String → PendingOp) (msg : AppMessage) : Action :=
  match parse msg.data with
  | .error e =>
    .RespondViaDebug msg.fromPid tag (failure (.InvalidRequest s!"Failed to parse request: {e}"))
  | .ok request =>
    match validateKey request.key with
    | .error error => .RespondViaDebug msg.fromPid tag (failure error)
    | .ok () => .Start (call request.key) (op (.fromMessage msg) request.key)

section

variable (serde : Serde) (ctx : ClientContext) (resultType : UInt8)

def handleRead : AppMessage → Action :=
  handleKeyed serde.readRequest MSG_KEYSTORE_READ_RESPONSE (fun e => .Read (.error e)) .Read .Read

def handleDelete : AppMessage → Action :=
  handleKeyed serde.deleteRequest MSG_KEYSTORE_DELETE_RESPONSE (fun e => .Delete (.error e))
    .Delete .Delete

def handleExists : AppMessage → Action :=
  handleKeyed serde.existsRequest MSG_KEYSTORE_EXISTS_RESPONSE (fun e => .Exists (.error e))
    .Exists .Exists

def handleWrite (msg : AppMessage) : Action :=
  let refuse (error : KeystoreError) : Action :=
    .RespondViaDebug msg.fromPid MSG_KEYSTORE_WRITE_RESPONSE (.Write (.error error))
  match serde.writeRequest msg.data with
  | .error e => refuse (.InvalidRequest s!"Failed to parse request: {e}")
  | .ok request =>
    match validateKey request.key with
    | .error error => refuse error
    | .ok () =>
      let size := request.value.length
      if size > MAX_CONTENT_SIZE then
        refuse (.InvalidRequest
          s!"Value too large: {size} bytes exceeds limit of {MAX_CONTENT_SIZE} bytes")
      else
        .Start (.Write request.key request.value) (.Write (.fromMessage msg) request.key)

def handleList (msg : AppMessage) : Action :=
  let refuse (error : KeystoreError) : Action :=
    .RespondViaDebug msg.fromPid MSG_KEYSTORE_LIST_RESPONSE (.List (.error error))
  match serde.listRequest msg.data with
  | .error e => refuse (.InvalidRequest s!"Failed to parse request: {e}")
  | .ok request =>
    if ¬ "/keys/".toList <+: request.keyStart.toList ∧ request.keyStart ≠ "/keys" then
      refuse (.InvalidKey "Prefix must start with /keys/")
    else .Start (.List request.keyStart) (.List (.fromMessage msg) request.keyStart)

def unexpected (operation : String) (resultType : UInt8) : KeystoreError :=
  let name := Vfs.resultTypeName resultType
  .StorageError s!"{operation} failed: {resultType} ({name})"

def handleReadResult (data : List UInt8) : Action :=
  let result : Except KeystoreError (List UInt8) :=
    if resultType = StorageResult.READ_OK then .ok data
    else if resultType = StorageResult.NOT_FOUND then .error .NotFound
    else .error (unexpected "Read" resultType)
  .Respond ctx MSG_KEYSTORE_READ_RESPONSE (.Read result)

def handleWriteResult : Action :=
  let result : Except KeystoreError Unit :=
    if resultType = StorageResult.WRITE_OK then .ok ()
    else .error (unexpected "Write" resultType)
  .Respond ctx MSG_KEYSTORE_WRITE_RESPONSE (.Write result)

-- To delete a key that is not there is a success.
def handleDeleteResult : Action :=
  let result : Except KeystoreError Unit :=
    if resultType = StorageResult.WRITE_OK then .ok ()
    else if resultType = StorageResult.NOT_FOUND then .ok ()
    else .error (unexpected "Delete" resultType)
  .Respond ctx MSG_KEYSTORE_DELETE_RESPONSE (.Delete result)

def handleExistsResult (data : List UInt8) : Action :=
  let result : Except KeystoreError Bool :=
    if resultType = StorageResult.EXISTS_OK then .ok (data.head? = some 1)
    else if resultType = StorageResult.NOT_FOUND then .ok false
    else .error (unexpected "Exists check" resultType)
  .Respond ctx MSG_KEYSTORE_EXISTS_RESPONSE (.Exists result)

def handleListResult (data : List UInt8) : Action :=
  let result : Except KeystoreError (List String) :=
    if resultType = StorageResult.LIST_OK then
      match serde.keysFromSlice data with
      | .ok keys => .ok keys
      | .error e => .error (.StorageError s!"Failed to parse key list: {e}")
    else if resultType = StorageResult.NOT_FOUND then .ok []
    else .error (unexpected "List" resultType)
  .Respond ctx MSG_KEYSTORE_LIST_RESPONSE (.List result)

end

def resume (serde : Serde) (op : PendingOp) (resultType : UInt8) (data : List UInt8) : Action :=
  match op with
  | .Read ctx _ => handleReadResult ctx resultType data
  | .Write ctx _ => handleWriteResult ctx resultType
  | .Delete ctx _ => handleDeleteResult ctx resultType
  | .Exists ctx _ => handleExistsResult ctx resultType data
  | .List ctx _ => handleListResult serde ctx resultType data

def handleRequest (serde : Serde) (msg : AppMessage) : Action :=
  if msg.tag = MSG_KEYSTORE_READ then handleRead serde msg
  else if msg.tag = MSG_KEYSTORE_WRITE then handleWrite serde msg
  else if msg.tag = MSG_KEYSTORE_DELETE then handleDelete serde msg
  else if msg.tag = MSG_KEYSTORE_EXISTS then handleExists serde msg
  else if msg.tag = MSG_KEYSTORE_LIST then handleList serde msg
  else .Done

end Keystore

open Keystore

open Vfs (AppMessage ClientContext AppError StorageCall)

structure KeystoreService where
  pendingOps : BTreeMap UInt32 Keystore.PendingOp

namespace KeystoreService

structure Handled where
  service : KeystoreService
  result : Except AppError Unit
  effects : List Keystore.Effect

variable (serde : Keystore.Serde) (sys : Keystore.Syscalls) (service : KeystoreService)

-- The body that the `start_keystore_*` functions share.
def startKeystore (sys : Keystore.Syscalls) (call : StorageCall) (op : Keystore.PendingOp) :
    Handled :=
  if service.pendingOps.size ≥ Keystore.MAX_PENDING_OPS then
    ⟨service, .error (.IpcError "Too many pending operations"), []⟩
  else
    match sys.keystore call with
    | .ok id =>
      let requestId := id.toUInt64.toUInt32
      ⟨⟨service.pendingOps.insert requestId op⟩, .ok (), [.Issue requestId call]⟩
    | .error e => ⟨service, .error (.IpcError s!"Keystore {call.verb} failed: {e}"), []⟩

def sendResponse (ctx : ClientContext) (tag : UInt32) (response : Keystore.Response) :
    Except AppError Unit × List Keystore.Effect :=
  match serde.responseToVec response with
  | .ok data =>
    match ctx.replyCaps.head? with
    | some replySlot =>
      match sys.send replySlot tag data with
      | .ok () => (.ok (), [.Reply replySlot tag response])
      | .error _ => (.ok (), [.DebugResponse ctx.pid tag response])
    | none => (.ok (), [.DebugResponse ctx.pid tag response])
  | .error e => (.error (.IpcError s!"Serialization failed: {e}"), [])

def sendResponseViaDebug (toPid : UInt32) (tag : UInt32) (response : Keystore.Response) :
    Except AppError Unit × List Keystore.Effect :=
  match serde.responseToVec response with
  | .ok _ => (.ok (), [.DebugResponse toPid tag response])
  | .error e => (.error (.IpcError s!"Serialization failed: {e}"), [])

def perform :
    Keystore.Action → Handled
  | .Respond ctx tag response =>
    let (result, effects) := sendResponse serde sys ctx tag response
    ⟨service, result, effects⟩
  | .RespondViaDebug toPid tag response =>
    let (result, effects) := sendResponseViaDebug serde toPid tag response
    ⟨service, result, effects⟩
  | .Start call op => service.startKeystore sys call op
  | .Done => ⟨service, .ok (), []⟩

-- The result of a call: the operation that waits for it, if there is one, is answered.
def keystoreCompleted (result : StorageResult) : Handled :=
  match service.pendingOps[result.requestId]? with
  | none => ⟨service, .ok (), []⟩
  | some op =>
    perform serde sys ⟨service.pendingOps.erase result.requestId⟩
      (Keystore.resume serde op result.resultType result.data)

-- The payload is read like a storage result. Where the message comes from is not looked at.
def handleKeystoreResult (msg : AppMessage) : Handled :=
  match parseStorageResult msg.data with
  | none => ⟨service, .ok (), []⟩
  | some result => service.keystoreCompleted serde sys result

def onMessage (msg : AppMessage) : Handled :=
  if msg.tag = MSG_KEYSTORE_RESULT then service.handleKeystoreResult serde sys msg
  else service.perform serde sys (Keystore.handleRequest serde msg)

end KeystoreService

end ZeroOS
