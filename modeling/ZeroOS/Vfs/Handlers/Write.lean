import ZeroOS.Vfs.Handlers.Read

/-!
Write and mkdir (`handlers/write.rs`).
-/

namespace ZeroOS.Vfs

open StorageResult

variable (serde : Serde) (now : UInt64) (clientCtx : ClientContext)

def sendWriteError (error : VfsError) : Action :=
  .Respond clientCtx MSG_VFS_WRITE_RESPONSE (.WriteFile (.error error))

def sendWriteErrorViaDebug (toPid : UInt32) (error : VfsError) : Action :=
  .RespondViaDebug toPid MSG_VFS_WRITE_RESPONSE (.WriteFile (.error error))

def sendMkdirError (error : VfsError) : Action :=
  .Respond clientCtx MSG_VFS_MKDIR_RESPONSE (.Mkdir (.error error))

def handleWrite (msg : AppMessage) : Action :=
  withRequest msg MSG_VFS_WRITE_RESPONSE (fun e => .WriteFile (.error e))
    (serde.writeFileRequest msg.data) WriteFileRequest.path (fun request =>
      let size := request.content.length
      if size > MAX_CONTENT_SIZE then
        sendWriteErrorViaDebug msg.fromPid (.InvalidRequest
          s!"Content too large: {size} bytes exceeds limit of {MAX_CONTENT_SIZE} bytes")
      else if request.path = "/" then
        sendWriteErrorViaDebug msg.fromPid (.InvalidPath "Cannot write to root directory")
      else
        let permCtx := derivePermissionContext msg.fromPid request.path
        startStorageRead (inodeKey (Path.parentPath request.path))
          (.WriteFileOp (.fromMessage msg) request.path permCtx (.CheckingParent request.content)))

def handleMkdir (msg : AppMessage) : Action :=
  withRequest msg MSG_VFS_MKDIR_RESPONSE (fun e => .Mkdir (.error e))
    (serde.mkdirRequest msg.data) MkdirRequest.path (fun request =>
      let permCtx := derivePermissionContext msg.fromPid request.path
      startStorageExists (inodeKey request.path)
        (.MkdirOp (.fromMessage msg) request.path permCtx .CheckingExists request.createParents))

section

variable (path : String) (permCtx : PermissionContext) (createParents : Bool) (resultType : UInt8)

-- The write of a new inode, after which the operation goes on as given.
def putInode (inode : Inode) (op : PendingOp) (fail : VfsError → Action) : Action :=
  match serde.inodeToVec inode with
  | .ok inodeJson => startStorageWrite (inodeKey path) inodeJson op
  | .error e => fail (.StorageError s!"Failed to serialize inode: {e}")

def directoryInode (ownerId : Option UserId) (now : UInt64) : Inode :=
  Inode.newDirectory path (Path.parentPath path) (Path.fileName path) ownerId now

-- The end of the two old mkdir handlers: the directory belongs to no one.
def putDirectory (now : UInt64) : Action :=
  putInode serde path (directoryInode path none now)
    (.PutInode (some clientCtx) MSG_VFS_MKDIR_RESPONSE) (sendMkdirError clientCtx)

def handleCheckExistsForMkdirResult (data : List UInt8) : Action :=
  if resultType = EXISTS_OK then
    if existsByte data then sendMkdirError clientCtx .AlreadyExists
    else putDirectory serde clientCtx path now
  else if resultType = NOT_FOUND then putDirectory serde clientCtx path now
  else
    sendMkdirError clientCtx (.StorageError
      s!"Exists check failed: unexpected result type {resultType} ({resultTypeName resultType})")

def handleMkdirInodeResult (data : List UInt8) : Action :=
  if resultType = EXISTS_OK then
    if existsByte data then sendMkdirError clientCtx .AlreadyExists
    else putDirectory serde clientCtx path now
  else if resultType = NOT_FOUND then putDirectory serde clientCtx path now
  else if resultType = READ_OK then sendMkdirError clientCtx .AlreadyExists
  else
    sendMkdirError clientCtx (.StorageError
      s!"Check exists failed: unexpected result type {resultType} ({resultTypeName resultType})")

-- The check of the parent that a write and a plain mkdir share: it is a directory that the
-- caller may write to.
def checkParent (data : List UInt8) (fail : VfsError → Action) (granted : Action) : Action :=
  if resultType = READ_OK then
    match serde.inodeFromSlice data with
    | .error e => fail (.StorageError s!"Parent inode corrupt or invalid: {e}")
    | .ok parentInode =>
      if parentInode.isDirectory then
        if checkWrite parentInode permCtx then granted else fail .PermissionDenied
      else fail .NotADirectory
  else if resultType = NOT_FOUND then fail .NotFound
  else
    fail (.StorageError
      s!"Parent read failed: unexpected result type {resultType} ({resultTypeName resultType})")

def handleWriteCheckingParent (data content : List UInt8) : Action :=
  checkParent serde permCtx resultType data (sendWriteError clientCtx)
    (startStorageWrite (contentKey path) content
      (.WriteFileOp clientCtx path permCtx (.WritingContent (UInt64.ofNat content.length))))

def handleWriteContentDone (contentLen : UInt64) (resultType : UInt8) : Action :=
  if resultType ≠ WRITE_OK then
    sendWriteError clientCtx (.StorageError
      s!"Content write failed: {resultType} ({resultTypeName resultType})")
  else
    let inode := Inode.newFile path (Path.parentPath path) (Path.fileName path) permCtx.userId
      contentLen none now
    putInode serde path inode (.WriteFileOp clientCtx path permCtx .WritingInode)
      (sendWriteError clientCtx)

def handleWriteInodeDone : Action :=
  if resultType ≠ WRITE_OK then
    sendWriteError clientCtx (.StorageError
      s!"Inode write failed: {resultType} ({resultTypeName resultType})")
  else .Respond clientCtx MSG_VFS_WRITE_RESPONSE (.WriteFile (.ok ()))

def handleWriteFileOpResult (stage : WriteFileStage) (resultType : UInt8) (data : List UInt8) :
    Action :=
  match stage with
  | .CheckingParent content =>
    handleWriteCheckingParent serde clientCtx path permCtx resultType data content
  | .WritingContent contentLen =>
    handleWriteContentDone serde now clientCtx path permCtx contentLen resultType
  | .WritingInode => handleWriteInodeDone clientCtx resultType

def handlePutInodeResult (clientCtx : Option ClientContext) (responseTag : UInt32)
    (resultType : UInt8) : Action :=
  match clientCtx with
  | none => .Done
  | some clientCtx =>
    if responseTag = MSG_VFS_MKDIR_RESPONSE then
      .Respond clientCtx responseTag (.Mkdir
        (if resultType = WRITE_OK then .ok ()
        else .error (.StorageError
          s!"Mkdir inode write failed: {resultType} ({resultTypeName resultType})")))
    else .Done

def handlePutContentResult : Action :=
  if resultType ≠ WRITE_OK then
    sendWriteError clientCtx (.StorageError
      s!"Content write failed: {resultType} ({resultTypeName resultType})")
  else .Respond clientCtx MSG_VFS_WRITE_RESPONSE (.WriteFile (.ok ()))

def createDirectoryInode : Action :=
  putInode serde path (directoryInode path permCtx.userId now)
    (.MkdirOp clientCtx path permCtx .WritingInode createParents) (sendMkdirError clientCtx)

def mkdirMissing : Action :=
  if createParents then
    match Path.buildParentPaths path with
    | [] => createDirectoryInode serde now clientCtx path permCtx false
    | firstPath :: rest =>
      startStorageExists (inodeKey firstPath)
        (.MkdirOp clientCtx path permCtx (.CreatingParents (firstPath :: rest) 0 false) true)
  else
    startStorageRead (inodeKey (Path.parentPath path))
      (.MkdirOp clientCtx path permCtx .CheckingParent false)

def handleMkdirCheckingExists (data : List UInt8) : Action :=
  if resultType = EXISTS_OK then
    if existsByte data then
      if createParents then .Respond clientCtx MSG_VFS_MKDIR_RESPONSE (.Mkdir (.ok ()))
      else sendMkdirError clientCtx .AlreadyExists
    else mkdirMissing serde now clientCtx path permCtx createParents
  else if resultType = NOT_FOUND then
    mkdirMissing serde now clientCtx path permCtx createParents
  else
    sendMkdirError clientCtx (.StorageError
      s!"Exists check failed: unexpected result type {resultType} ({resultTypeName resultType})")

def handleMkdirCheckingParent (data : List UInt8) : Action :=
  checkParent serde permCtx resultType data (sendMkdirError clientCtx)
    (createDirectoryInode serde now clientCtx path permCtx createParents)

end

section

variable (targetPath : String) (permCtx : PermissionContext) (paths : List String) (index : Nat)

def mkdirCreatingParentsNext (currentIndex : Nat) : Action :=
  let nextIndex := currentIndex + 1
  if nextIndex ≥ paths.length then
    createDirectoryInode serde now clientCtx targetPath permCtx true
  else
    startStorageExists (inodeKey (paths.getD nextIndex ""))
      (.MkdirOp clientCtx targetPath permCtx (.CreatingParents paths nextIndex false) true)

-- The payload of the exists query is not looked at here.
def handleMkdirCreatingParents (resultType : UInt8) : Action :=
  let currentPath := paths.getD index ""
  if resultType = EXISTS_OK then
    mkdirCreatingParentsNext serde now clientCtx targetPath permCtx paths index
  else if resultType = NOT_FOUND then
    putInode serde currentPath (directoryInode currentPath permCtx.userId now)
      (.MkdirOp clientCtx targetPath permCtx (.CreatingParents paths index true) true)
      (sendMkdirError clientCtx)
  else
    sendMkdirError clientCtx (.StorageError
      s!"Parent check failed: unexpected result type {resultType} ({resultTypeName resultType})")

def handleMkdirCreatingParentsWriteDone (resultType : UInt8) : Action :=
  if resultType ≠ WRITE_OK then
    sendMkdirError clientCtx (.StorageError
      s!"Parent directory write failed: {resultType} ({resultTypeName resultType})")
  else mkdirCreatingParentsNext serde now clientCtx targetPath permCtx paths index

end

def handleMkdirWritingInode (resultType : UInt8) : Action :=
  if resultType ≠ WRITE_OK then
    sendMkdirError clientCtx (.StorageError
      s!"Inode write failed: {resultType} ({resultTypeName resultType})")
  else .Respond clientCtx MSG_VFS_MKDIR_RESPONSE (.Mkdir (.ok ()))

def handleMkdirOpResult (path : String) (permCtx : PermissionContext) (stage : MkdirStage)
    (createParents : Bool) (resultType : UInt8) (data : List UInt8) : Action :=
  match stage with
  | .CheckingExists =>
    handleMkdirCheckingExists serde now clientCtx path permCtx createParents resultType data
  | .CheckingParent =>
    handleMkdirCheckingParent serde now clientCtx path permCtx createParents resultType data
  | .WritingInode => handleMkdirWritingInode clientCtx resultType
  | .CreatingParents paths index true =>
    handleMkdirCreatingParentsWriteDone serde now clientCtx path permCtx paths index resultType
  | .CreatingParents paths index false =>
    handleMkdirCreatingParents serde now clientCtx path permCtx paths index resultType

end ZeroOS.Vfs
