import ZeroOS.Lib.Program
import ZeroOS.Network.Service
import ZeroOS.Vfs.Client

/-!
The identity service (`services/identity`).
-/

namespace ZeroOS

namespace Identity

open Vfs (AppMessage VfsRequest)

open Keystore (KeystoreRequest)

def MAX_PENDING_VFS_OPS : Nat := 64

def MAX_PENDING_KEYSTORE_OPS : Nat := 64

def MAX_PENDING_NET_OPS : Nat := 32

structure RequestContext where
  clientPid : UInt32
  capSlots : List UInt32
deriving DecidableEq

inductive AppError where
  | IpcError (reason : String)
  | Internal (reason : String)
deriving DecidableEq

inductive ExpectedVfsResponse where
  | Read
  | Write
  | Exists
  | Mkdir
  | Readdir
  | Unlink
deriving DecidableEq

-- The kinds of operation that wait for the file system.
inductive StorageStep where
  | CheckIdentityDirectory
  | CreateIdentityDirectory
  | CreateIdentityDirectoryComplete
  | CreateDerivedUserDirectory
  | CheckKeyExists
  | WriteKeyStore
  | GetIdentityKey
  | ReadIdentityForRecovery
  | WriteRecoveredKeyStore
  | ReadIdentityForMachine
  | WriteMachineKey
  | ListMachineKeys
  | ReadMachineKey
  | DeleteMachineKey
  | ReadMachineForRotate
  | WriteRotatedMachineKey
  | ReadSingleMachineKey
  | ReadCredentialsForAttach
  | GetCredentials
  | ReadCredentialsForUnlink
  | WriteUnlinkedCredential
  | WriteEmailCredential
  | CreateCredentialsDirectory
  | WriteEmailCredentialRetry
  | ReadMachineKeyForZidLogin
  | WriteZidSession
  | ReadMachineKeyForZidEnroll
  | WriteZidEnrollSession
  | DeleteZidSession
  | WriteZidEmailLoginSession
  | ReadIdentityPreferences
  | ReadPreferencesForUpdate
  | WritePreferences
  | ReadPreferencesForDefaultMachine
  | WritePreferencesForDefaultMachine
  | CreateIdentityDirForPreferences
  | WritePreferencesForDefaultMachineRetry
  | ReadPreferencesForZidLogin
  | ReadZidSessionForRefresh
  | WriteRefreshedZidSession
deriving DecidableEq

def StorageStep.expectedResponse : StorageStep → ExpectedVfsResponse
  | CheckIdentityDirectory | CheckKeyExists => .Exists
  | CreateIdentityDirectory | CreateIdentityDirectoryComplete | CreateDerivedUserDirectory
  | CreateCredentialsDirectory | CreateIdentityDirForPreferences => .Mkdir
  | GetIdentityKey | ReadIdentityForRecovery | ReadIdentityForMachine | ReadMachineKey
  | ReadMachineForRotate | ReadSingleMachineKey | ReadCredentialsForAttach | GetCredentials
  | ReadCredentialsForUnlink | ReadMachineKeyForZidLogin | ReadMachineKeyForZidEnroll
  | ReadIdentityPreferences | ReadPreferencesForUpdate | ReadPreferencesForDefaultMachine
  | ReadPreferencesForZidLogin | ReadZidSessionForRefresh => .Read
  | WriteKeyStore | WriteRecoveredKeyStore | WriteMachineKey | WriteRotatedMachineKey
  | WriteUnlinkedCredential | WriteEmailCredential | WriteEmailCredentialRetry | WriteZidSession
  | WriteZidEnrollSession | WriteZidEmailLoginSession | WritePreferences
  | WritePreferencesForDefaultMachine | WritePreferencesForDefaultMachineRetry
  | WriteRefreshedZidSession => .Write
  | ListMachineKeys => .Readdir
  | DeleteMachineKey | DeleteZidSession => .Unlink

structure PendingStorageOp (σ : Type) where
  step : StorageStep
  ctx : RequestContext
  fields : σ
deriving DecidableEq

def PendingStorageOp.expectedResponse {σ : Type} (op : PendingStorageOp σ) : ExpectedVfsResponse :=
  op.step.expectedResponse

-- The calls by which a step touches the service or the world. One step writes a file without
-- waiting for the response.
inductive Call (σ κ ν : Type) where
  | StartVfs (request : VfsRequest) (op : PendingStorageOp σ)
  | StartKeystore (request : KeystoreRequest) (op : κ)
  | StartNetworkFetch (request : Except String (List UInt8)) (op : ν)
  | SendVfs (request : VfsRequest)
  | Respond (toPid : UInt32) (capSlots : List UInt32) (tag : UInt32)
      (response : Except String (List UInt8))

-- A step, from the request or the response that it handles to the result of the handler.
abbrev Flow (σ κ ν : Type) : Type :=
  Program (Call σ κ ν) (Except AppError Unit) (Except AppError Unit)

-- The steps that a response leads to. `httpFromSlice` reads the response of a server.
structure Flows (σ κ ν η : Type) where
  onVfsResult : ExpectedVfsResponse → PendingStorageOp σ → List UInt8 → Flow σ κ ν
  onNetworkResult : ν → η → Flow σ κ ν
  httpFromSlice : List UInt8 → Option η
  httpErr : String → η

inductive Effect where
  | Vfs (request : VfsRequest)
  | Keystore (request : KeystoreRequest)
  | Fetch (requestId : UInt32) (request : List UInt8)
  | Reply (slot : UInt32) (tag : UInt32) (data : List UInt8)
  | DebugResponse (toPid : UInt32) (tag : UInt32) (data : List UInt8)
deriving DecidableEq

-- The results of the syscalls, which may depend on what was done before.
structure Syscalls where
  vfs : List Effect → VfsRequest → Except String Unit
  keystore : List Effect → KeystoreRequest → Except String Unit
  fetch : List Effect → List UInt8 → Except Int64 Int64
  send : List Effect → UInt32 → UInt32 → List UInt8 → Except UInt32 Unit

end Identity

open Identity

open Vfs (AppMessage VfsRequest)

open Keystore (KeystoreRequest)

structure IdentityService (σ κ ν : Type) where
  pendingVfsOps : BTreeMap UInt32 (Identity.PendingStorageOp σ)
  nextVfsOpId : UInt32
  pendingKeystoreOps : BTreeMap UInt32 κ
  nextKeystoreOpId : UInt32
  pendingNetOps : BTreeMap UInt32 ν

namespace IdentityService

variable {σ κ ν η : Type}

-- The service in the middle of a step, with what was done so far.
structure Progress (σ κ ν : Type) where
  service : IdentityService σ κ ν
  effects : List Identity.Effect

abbrev Outcome (σ κ ν : Type) : Type := Progress σ κ ν × Except Identity.AppError Unit

section

variable (sys : Identity.Syscalls) (progress : Progress σ κ ν)

-- The body that the `start_vfs_*` functions share. The id is used up also when the request
-- cannot be sent.
def startVfs (request : VfsRequest) (op : Identity.PendingStorageOp σ) : Outcome σ κ ν :=
  let service := progress.service
  if service.pendingVfsOps.size ≥ MAX_PENDING_VFS_OPS then
    (progress, .error (.IpcError "Too many pending operations"))
  else
    let opId := service.nextVfsOpId
    let service := { service with nextVfsOpId := service.nextVfsOpId + 1 }
    match sys.vfs progress.effects request with
    | .error e => ({ progress with service }, .error (.IpcError s!"VFS error: {e}"))
    | .ok () =>
      (⟨{ service with pendingVfsOps := service.pendingVfsOps.insert opId op },
        progress.effects ++ [.Vfs request]⟩, .ok ())

-- The body that the `start_keystore_*` functions share.
def startKeystore (request : KeystoreRequest) (op : κ) : Outcome σ κ ν :=
  let service := progress.service
  if service.pendingKeystoreOps.size ≥ MAX_PENDING_KEYSTORE_OPS then
    (progress, .error (.IpcError "Too many pending keystore operations"))
  else
    let opId := service.nextKeystoreOpId
    let service := { service with nextKeystoreOpId := service.nextKeystoreOpId + 1 }
    match sys.keystore progress.effects request with
    | .error e => ({ progress with service }, .error (.IpcError s!"VFS error: {e}"))
    | .ok () =>
      (⟨{ service with pendingKeystoreOps := service.pendingKeystoreOps.insert opId op },
        progress.effects ++ [.Keystore request]⟩, .ok ())

def startNetworkFetch (request : Except String (List UInt8)) (op : ν) : Outcome σ κ ν :=
  let service := progress.service
  if service.pendingNetOps.size ≥ MAX_PENDING_NET_OPS then
    (progress, .error (.IpcError "Too many pending network operations"))
  else
    match request with
    | .error e => (progress, .error (.IpcError s!"Request serialization failed: {e}"))
    | .ok json =>
      match sys.fetch progress.effects json with
      | .error e => (progress, .error (.IpcError s!"Network fetch failed: {e}"))
      | .ok id =>
        let requestId := id.toUInt64.toUInt32
        (⟨{ service with pendingNetOps := service.pendingNetOps.insert requestId op },
          progress.effects ++ [.Fetch requestId json]⟩, .ok ())

def sendResponseToPid (toPid : UInt32) (capSlots : List UInt32) (tag : UInt32)
    (response : Except String (List UInt8)) : Outcome σ κ ν :=
  match response with
  | .error e => (progress, .error (.IpcError s!"Serialization failed: {e}"))
  | .ok data =>
    let viaDebug : Identity.Effect := .DebugResponse toPid tag data
    let effect := match capSlots.head? with
      | none => viaDebug
      | some replySlot =>
        match sys.send progress.effects replySlot tag data with
        | .ok () => .Reply replySlot tag data
        | .error _ => viaDebug
    ({ progress with effects := progress.effects ++ [effect] }, .ok ())

def sendVfs (request : VfsRequest) : Outcome σ κ ν :=
  match sys.vfs progress.effects request with
  | .error e => (progress, .error (.IpcError s!"VFS error: {e}"))
  | .ok () => ({ progress with effects := progress.effects ++ [.Vfs request] }, .ok ())

def perform :
    Identity.Call σ κ ν → Outcome σ κ ν
  | .StartVfs request op => startVfs sys progress request op
  | .StartKeystore request op => startKeystore sys progress request op
  | .StartNetworkFetch request op => startNetworkFetch sys progress request op
  | .SendVfs request => sendVfs sys progress request
  | .Respond toPid capSlots tag response =>
    sendResponseToPid sys progress toPid capSlots tag response

end

variable (flows : Flows σ κ ν η) (sys : Identity.Syscalls) (service : IdentityService σ κ ν)

def runFlow (flow : Flow σ κ ν) : Outcome σ κ ν :=
  flow.run (perform sys) ⟨service, []⟩

-- Nothing but the log.
def ignore : Outcome σ κ ν := (⟨service, []⟩, .ok ())

-- The operation with the smallest id among those that expect a response of this kind.
def takePendingVfsOpFor (expected : ExpectedVfsResponse) :
    Option (IdentityService σ κ ν × Identity.PendingStorageOp σ) :=
  match service.pendingVfsOps.first fun op => op.expectedResponse = expected with
  | some (key, op) => some ({ service with pendingVfsOps := service.pendingVfsOps.erase key }, op)
  | none => none

-- The body that the `handle_vfs_*_response` functions share.
def handleVfsResponse (expected : ExpectedVfsResponse) (msg : AppMessage) : Outcome σ κ ν :=
  match service.takePendingVfsOpFor expected with
  | none => service.ignore
  | some (service, op) => service.runFlow sys (flows.onVfsResult expected op msg.data)

def vfsResponseOf (tag : UInt32) : Option ExpectedVfsResponse :=
  if tag = Vfs.MSG_VFS_READ_RESPONSE then some .Read
  else if tag = Vfs.MSG_VFS_WRITE_RESPONSE then some .Write
  else if tag = Vfs.MSG_VFS_EXISTS_RESPONSE then some .Exists
  else if tag = Vfs.MSG_VFS_MKDIR_RESPONSE then some .Mkdir
  else if tag = Vfs.MSG_VFS_READDIR_RESPONSE then some .Readdir
  else if tag = Vfs.MSG_VFS_UNLINK_RESPONSE then some .Unlink
  else none

def handleVfsResult (msg : AppMessage) : Outcome σ κ ν :=
  match vfsResponseOf msg.tag with
  | some expected => service.handleVfsResponse flows sys expected msg
  | none => service.ignore

def httpResponse (result : StorageResult) : η :=
  if result.resultType = 0 ∧ result.data ≠ [] then
    (flows.httpFromSlice result.data).getD (flows.httpErr "Parse error")
  else flows.httpErr "Network error"

-- The result of a fetch: the operation that waits for it, if there is one, goes on.
def fetchCompleted (result : StorageResult) : Outcome σ κ ν :=
  match service.pendingNetOps[result.requestId]? with
  | none => service.ignore
  | some op =>
    { service with pendingNetOps := service.pendingNetOps.erase result.requestId }.runFlow sys
      (flows.onNetworkResult op (httpResponse flows result))

-- The payload is read like a storage result.
def handleNetResult (msg : AppMessage) : Outcome σ κ ν :=
  match parseStorageResult msg.data with
  | none => service.ignore
  | some result => service.fetchCompleted flows sys result

end IdentityService

end ZeroOS
