import ZeroOS.Vfs.Handlers.Delete
import ZeroOS.Vfs.Handlers.Write

/-!
The dispatch of messages and of storage results to their handlers.
-/

namespace ZeroOS

open Vfs

namespace Vfs

def handleInodeResult (serde : Serde) (now : UInt64) (clientCtx : ClientContext) (path : String)
    (opType : InodeOpType) (permCtx : PermissionContext) (resultType : UInt8)
    (data : List UInt8) : Action :=
  match opType with
  | .Stat => handleStatInodeResult serde clientCtx permCtx resultType data
  | .Exists => handleExistsInodeResult clientCtx resultType
  | .ReadFile => handleReadFileInodeResult serde clientCtx path permCtx resultType data
  | .MkdirCheckParent _ => handleMkdirInodeResult serde now clientCtx path resultType data
  | .WriteFileCheckParent content =>
    handleWriteCheckingParent serde clientCtx path permCtx resultType data content
  | .Rmdir _ => handleRmdirInodeResult serde clientCtx path permCtx resultType data
  | .Unlink => handleUnlinkInodeResult serde clientCtx path permCtx resultType data
  | .Readdir => .Done

-- The operation goes on with the result that it has waited for.
def resume (serde : Serde) (now : UInt64) (op : PendingOp) (resultType : UInt8)
    (data : List UInt8) : Action :=
  match op with
  | .GetInode ctx path opType permCtx =>
    handleInodeResult serde now ctx path opType permCtx resultType data
  | .GetContent ctx _ _ => handleContentResult ctx resultType data
  | .PutInode ctx responseTag => handlePutInodeResult ctx responseTag resultType
  | .PutContent ctx _ => handlePutContentResult ctx resultType
  | .DeleteInode ctx responseTag => handleDeleteInodeResult ctx responseTag resultType
  | .DeleteContent _ => .Done
  | .ListChildren ctx _ _ => handleListChildrenResult serde ctx resultType data
  | .ExistsCheck ctx _ => handleExistsResult ctx resultType data
  | .CheckExistsForMkdir ctx path _ _ =>
    handleCheckExistsForMkdirResult serde now ctx path resultType data
  | .WriteFileOp ctx path permCtx stage =>
    handleWriteFileOpResult serde now ctx path permCtx stage resultType data
  | .MkdirOp ctx path permCtx stage createParents =>
    handleMkdirOpResult serde now ctx path permCtx stage createParents resultType data
  | .ReaddirOp ctx path permCtx stage =>
    handleReaddirOpResult serde ctx path permCtx stage resultType data
  | .UnlinkOp ctx path permCtx stage =>
    handleUnlinkOpResult serde ctx path permCtx stage resultType data

def handleRequest (serde : Serde) (msg : AppMessage) : Action :=
  if msg.tag = MSG_VFS_MKDIR then handleMkdir serde msg
  else if msg.tag = MSG_VFS_RMDIR then handleRmdir serde msg
  else if msg.tag = MSG_VFS_READDIR then handleReaddir serde msg
  else if msg.tag = MSG_VFS_WRITE then handleWrite serde msg
  else if msg.tag = MSG_VFS_READ then handleRead serde msg
  else if msg.tag = MSG_VFS_UNLINK then handleUnlink serde msg
  else if msg.tag = MSG_VFS_STAT then handleStat serde msg
  else if msg.tag = MSG_VFS_EXISTS then handleExists serde msg
  else .Done

end Vfs

namespace VfsService

variable (serde : Serde) (sys : Syscalls) (service : VfsService)

-- The result of a storage call: the operation that waits for it, if there is one, goes on.
def storageCompleted (result : StorageResult) : Handled :=
  match service.pendingOps[result.requestId]? with
  | none => ⟨service, .ok (), []⟩
  | some op =>
    perform serde sys ⟨service.pendingOps.erase result.requestId⟩
      (resume serde sys.wallclock op result.resultType result.data)

-- Where the message comes from is not looked at.
def handleStorageResult (msg : AppMessage) : Handled :=
  match parseStorageResult msg.data with
  | none => ⟨service, .ok (), []⟩
  | some result => service.storageCompleted serde sys result

def onMessage (msg : AppMessage) : Handled :=
  if msg.tag = MSG_STORAGE_RESULT then service.handleStorageResult serde sys msg
  else service.perform serde sys (handleRequest serde msg)

end VfsService

end ZeroOS
