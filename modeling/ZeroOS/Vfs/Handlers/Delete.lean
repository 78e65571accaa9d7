import ZeroOS.Vfs.Handlers.Read

/-!
Rmdir and unlink (`handlers/delete.rs`).
-/

namespace ZeroOS.Vfs

open StorageResult

variable (serde : Serde) (clientCtx : ClientContext) (path : String)

def sendRmdirError (error : VfsError) : Action :=
  .Respond clientCtx MSG_VFS_RMDIR_RESPONSE (.Rmdir (.error error))

def sendUnlinkError (error : VfsError) : Action :=
  .Respond clientCtx MSG_VFS_UNLINK_RESPONSE (.Unlink (.error error))

def handleRmdir (msg : AppMessage) : Action :=
  withRequest msg MSG_VFS_RMDIR_RESPONSE (fun e => .Rmdir (.error e))
    (serde.rmdirRequest msg.data) RmdirRequest.path (fun request =>
      let permCtx := derivePermissionContext msg.fromPid request.path
      startStorageRead (inodeKey request.path)
        (.GetInode (.fromMessage msg) request.path (.Rmdir request.recursive) permCtx))

def handleUnlink (msg : AppMessage) : Action :=
  withRequest msg MSG_VFS_UNLINK_RESPONSE (fun e => .Unlink (.error e))
    (serde.unlinkRequest msg.data) PathRequest.path (fun request =>
      let permCtx := derivePermissionContext msg.fromPid request.path
      startStorageRead (inodeKey request.path)
        (.UnlinkOp (.fromMessage msg) request.path permCtx .ReadingInode))

variable (permCtx : PermissionContext) (resultType : UInt8) (data : List UInt8)

-- The check that a deletion begins with: the inode has the right type and the caller may
-- write to it.
def checkDeletion (fits : Inode → Bool) (misfit : VfsError) (resultType : UInt8) (data : List UInt8)
    (fail : VfsError → Action) (granted : Action) : Action :=
  if resultType = READ_OK then
    match serde.inodeFromSlice data with
    | .ok inode =>
      if fits inode then
        if checkWrite inode permCtx then granted else fail .PermissionDenied
      else fail misfit
    | .error e => fail (.StorageError s!"Failed to parse inode: {e}")
  else if resultType = NOT_FOUND then fail .NotFound
  else fail (.StorageError s!"Inode read failed: {resultType} ({resultTypeName resultType})")

-- The recursive flag of the request is not looked at, nor are the children of the directory.
def handleRmdirInodeResult : Action :=
  checkDeletion serde permCtx Inode.isDirectory .NotADirectory resultType data
    (sendRmdirError clientCtx)
    (startStorageDelete (inodeKey path) (.DeleteInode (some clientCtx) MSG_VFS_RMDIR_RESPONSE))

def handleUnlinkInodeResult : Action :=
  checkDeletion serde permCtx Inode.isFile .NotAFile resultType data (sendUnlinkError clientCtx)
    (.StartBoth (.Delete (contentKey path)) (.DeleteContent path) (.Delete (inodeKey path))
      (.DeleteInode (some clientCtx) MSG_VFS_UNLINK_RESPONSE))

def handleDeleteInodeResult (clientCtx : Option ClientContext) (responseTag : UInt32)
    (resultType : UInt8) : Action :=
  match clientCtx with
  | none => .Done
  | some clientCtx =>
    if responseTag = MSG_VFS_RMDIR_RESPONSE then
      .Respond clientCtx responseTag (.Rmdir
        (if resultType = WRITE_OK then .ok ()
        else .error (.StorageError
          s!"Rmdir inode delete failed: {resultType} ({resultTypeName resultType})")))
    else if responseTag = MSG_VFS_UNLINK_RESPONSE then
      .Respond clientCtx responseTag (.Unlink
        (if resultType = WRITE_OK then .ok ()
        else .error (.StorageError
          s!"Unlink inode delete failed: {resultType} ({resultTypeName resultType})")))
    else .Done

def handleUnlinkReadingInode : Action :=
  checkDeletion serde permCtx Inode.isFile .NotAFile resultType data (sendUnlinkError clientCtx)
    (startStorageDelete (contentKey path) (.UnlinkOp clientCtx path permCtx .DeletingContent))

def handleUnlinkDeletingContent : Action :=
  -- Content that is missing already is no reason to stop.
  if resultType = WRITE_OK ∨ resultType = NOT_FOUND then
    startStorageDelete (inodeKey path) (.UnlinkOp clientCtx path permCtx .DeletingInode)
  else
    sendUnlinkError clientCtx (.StorageError
      s!"Content delete failed: {resultType} ({resultTypeName resultType})")

def handleUnlinkDeletingInode : Action :=
  if resultType ≠ WRITE_OK then
    sendUnlinkError clientCtx (.StorageError
      s!"Inode delete failed: {resultType} ({resultTypeName resultType})")
  else .Respond clientCtx MSG_VFS_UNLINK_RESPONSE (.Unlink (.ok ()))

def handleUnlinkOpResult (stage : UnlinkStage) (resultType : UInt8) (data : List UInt8) : Action :=
  match stage with
  | .ReadingInode => handleUnlinkReadingInode serde clientCtx path permCtx resultType data
  | .DeletingContent => handleUnlinkDeletingContent clientCtx path permCtx resultType
  | .DeletingInode => handleUnlinkDeletingInode clientCtx resultType

end ZeroOS.Vfs
