import ZeroOS.Lib.Map
import ZeroOS.Vfs.StorageResult
import ZeroOS.Vfs.Types

/-!
The file system service (`services/vfs/mod.rs`).
-/

namespace ZeroOS

namespace Vfs

def MAX_PENDING_OPS : Nat := 1024

def MAX_CONTENT_SIZE : Nat := 16 * 1024 * 1024

def MSG_VFS_MKDIR : UInt32 := 0x8000

def MSG_VFS_MKDIR_RESPONSE : UInt32 := 0x8001

def MSG_VFS_RMDIR : UInt32 := 0x8002

def MSG_VFS_RMDIR_RESPONSE : UInt32 := 0x8003

def MSG_VFS_READDIR : UInt32 := 0x8004

def MSG_VFS_READDIR_RESPONSE : UInt32 := 0x8005

def MSG_VFS_WRITE : UInt32 := 0x8010

def MSG_VFS_WRITE_RESPONSE : UInt32 := 0x8011

def MSG_VFS_READ : UInt32 := 0x8012

def MSG_VFS_READ_RESPONSE : UInt32 := 0x8013

def MSG_VFS_UNLINK : UInt32 := 0x8014

def MSG_VFS_UNLINK_RESPONSE : UInt32 := 0x8015

def MSG_VFS_STAT : UInt32 := 0x8020

def MSG_VFS_STAT_RESPONSE : UInt32 := 0x8021

def MSG_VFS_EXISTS : UInt32 := 0x8022

def MSG_VFS_EXISTS_RESPONSE : UInt32 := 0x8023

-- A message as the framework hands it to the service.
structure AppMessage where
  tag : UInt32
  fromPid : UInt32
  capSlots : List UInt32
  data : List UInt8
deriving DecidableEq

structure ClientContext where
  pid : UInt32
  replyCaps : List UInt32
deriving DecidableEq

def ClientContext.fromMessage (msg : AppMessage) : ClientContext := ⟨msg.fromPid, msg.capSlots⟩

inductive WriteFileStage where
  | CheckingParent (content : List UInt8)
  | WritingContent (contentLen : UInt64)
  | WritingInode
deriving DecidableEq

inductive MkdirStage where
  | CheckingExists
  | CheckingParent
  | WritingInode
  | CreatingParents (paths : List String) (index : Nat) (writing : Bool)
deriving DecidableEq

inductive ReaddirStage where
  | ReadingInode
  | ListingChildren
deriving DecidableEq

inductive UnlinkStage where
  | ReadingInode
  | DeletingContent
  | DeletingInode
deriving DecidableEq

inductive InodeOpType where
  | Stat
  | Exists
  | ReadFile
  | MkdirCheckParent (createParents : Bool)
  | WriteFileCheckParent (content : List UInt8)
  | Rmdir (recursive : Bool)
  | Unlink
  | Readdir
deriving DecidableEq

inductive PendingOp where
  | GetInode (ctx : ClientContext) (path : String) (opType : InodeOpType)
      (permCtx : PermissionContext)
  | GetContent (ctx : ClientContext) (path : String) (permCtx : PermissionContext)
  | PutInode (ctx : Option ClientContext) (responseTag : UInt32)
  | PutContent (ctx : ClientContext) (path : String)
  | DeleteInode (ctx : Option ClientContext) (responseTag : UInt32)
  | DeleteContent (path : String)
  | ListChildren (ctx : ClientContext) (path : String) (permCtx : PermissionContext)
  | ExistsCheck (ctx : ClientContext) (path : String)
  | CheckExistsForMkdir (ctx : ClientContext) (path : String) (createParents : Bool)
      (permCtx : PermissionContext)
  | WriteFileOp (ctx : ClientContext) (path : String) (permCtx : PermissionContext)
      (stage : WriteFileStage)
  | MkdirOp (ctx : ClientContext) (path : String) (permCtx : PermissionContext)
      (stage : MkdirStage) (createParents : Bool)
  | ReaddirOp (ctx : ClientContext) (path : String) (permCtx : PermissionContext)
      (stage : ReaddirStage)
  | UnlinkOp (ctx : ClientContext) (path : String) (permCtx : PermissionContext)
      (stage : UnlinkStage)
deriving DecidableEq

-- The asynchronous storage syscalls with their arguments.
inductive StorageCall where
  | Read (key : String)
  | Write (key : String) (value : List UInt8)
  | Delete (key : String)
  | List (keyStart : String)
  | Exists (key : String)
deriving DecidableEq

def StorageCall.verb : StorageCall → String
  | Read _ => "read"
  | Write _ _ => "write"
  | Delete _ => "delete"
  | List _ => "list"
  | Exists _ => "exists"

-- The results of the syscalls that are made while one message is handled: of the storage calls
-- in order, of a send, and the clock.
structure Syscalls where
  storage : Nat → StorageCall → Except Int64 Int64
  send : UInt32 → UInt32 → List UInt8 → Except UInt32 Unit
  wallclock : UInt64

-- What a handler does at its end. The old unlink handler starts two deletions at once.
inductive Action where
  | Respond (ctx : ClientContext) (tag : UInt32) (response : Response)
  | RespondViaDebug (toPid : UInt32) (tag : UInt32) (response : Response)
  | Start (call : StorageCall) (op : PendingOp)
  | StartBoth (first : StorageCall) (firstOp : PendingOp) (second : StorageCall)
      (secondOp : PendingOp)
  | Done
deriving DecidableEq

def startStorageRead (key : String) (op : PendingOp) : Action := .Start (.Read key) op

def startStorageWrite (key : String) (value : List UInt8) (op : PendingOp) : Action :=
  .Start (.Write key value) op

def startStorageDelete (key : String) (op : PendingOp) : Action := .Start (.Delete key) op

def startStorageList (keyStart : String) (op : PendingOp) : Action := .Start (.List keyStart) op

def startStorageExists (key : String) (op : PendingOp) : Action := .Start (.Exists key) op

-- What the service does that can be seen from outside.
inductive Effect where
  | Storage (requestId : UInt32) (call : StorageCall)
  | Reply (slot : UInt32) (tag : UInt32) (response : Response)
  | DebugResponse (toPid : UInt32) (tag : UInt32) (response : Response)
deriving DecidableEq

inductive AppError where
  | IpcError (reason : String)
deriving DecidableEq

def resultTypeName (resultType : UInt8) : String :=
  if resultType = StorageResult.READ_OK then "READ_OK"
  else if resultType = StorageResult.WRITE_OK then "WRITE_OK"
  else if resultType = StorageResult.NOT_FOUND then "NOT_FOUND"
  else if resultType = StorageResult.ERROR then "ERROR"
  else if resultType = StorageResult.LIST_OK then "LIST_OK"
  else if resultType = StorageResult.EXISTS_OK then "EXISTS_OK"
  else "UNKNOWN"

end Vfs

open Vfs

structure VfsService where
  pendingOps : BTreeMap UInt32 PendingOp

-- The service after a message, what the handler returned and what was done.
structure Handled where
  service : VfsService
  result : Except AppError Unit
  effects : List Vfs.Effect

namespace VfsService

-- The body that the `start_storage_*` functions share; `n` counts the calls of this handler.
def startStorage (service : VfsService) (sys : Syscalls) (n : Nat) (call : StorageCall)
    (op : PendingOp) : Handled :=
  if service.pendingOps.size ≥ MAX_PENDING_OPS then
    ⟨service, .error (.IpcError "Too many pending operations"), []⟩
  else
    match sys.storage n call with
    | .ok id =>
      let requestId := id.toUInt64.toUInt32
      ⟨⟨service.pendingOps.insert requestId op⟩, .ok (), [.Storage requestId call]⟩
    | .error e => ⟨service, .error (.IpcError s!"Storage {call.verb} failed: {e}"), []⟩

def sendResponse (serde : Serde) (sys : Syscalls) (ctx : ClientContext) (tag : UInt32)
    (response : Response) : Except AppError Unit × List Vfs.Effect :=
  match serde.responseToVec response with
  | .ok data =>
    match ctx.replyCaps.head? with
    | some replySlot =>
      match sys.send replySlot tag data with
      | .ok () => (.ok (), [.Reply replySlot tag response])
      | .error _ => (.ok (), [.DebugResponse ctx.pid tag response])
    | none => (.ok (), [.DebugResponse ctx.pid tag response])
  | .error e => (.error (.IpcError s!"Serialization failed: {e}"), [])

def sendResponseViaDebug (serde : Serde) (toPid : UInt32) (tag : UInt32) (response : Response) :
    Except AppError Unit × List Vfs.Effect :=
  match serde.responseToVec response with
  | .ok _ => (.ok (), [.DebugResponse toPid tag response])
  | .error e => (.error (.IpcError s!"Serialization failed: {e}"), [])

def perform (serde : Serde) (sys : Syscalls) (service : VfsService) : Action → Handled
  | .Respond ctx tag response =>
    let (result, effects) := sendResponse serde sys ctx tag response
    ⟨service, result, effects⟩
  | .RespondViaDebug toPid tag response =>
    let (result, effects) := sendResponseViaDebug serde toPid tag response
    ⟨service, result, effects⟩
  | .Start call op => service.startStorage sys 0 call op
  | .StartBoth first firstOp second secondOp =>
    -- Whether the first call succeeds makes no difference to the second.
    let one := service.startStorage sys 0 first firstOp
    let two := one.service.startStorage sys 1 second secondOp
    ⟨two.service, two.result, one.effects ++ two.effects⟩
  | .Done => ⟨service, .ok (), []⟩

end VfsService

end ZeroOS
