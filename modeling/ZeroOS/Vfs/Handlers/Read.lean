import ZeroOS.Vfs.Service

/-!
Stat, exists, read and readdir (`handlers/read.rs`).
-/

namespace ZeroOS.Vfs

open StorageResult

-- The steps that all requests begin with: the request is parsed and its path validated. What
-- is wrong with it is answered by the debug channel.
def withRequest {ρ : Type} (msg : AppMessage) (tag : UInt32) (respond : VfsError → Response)
    (request : Except String ρ) (pathOf : ρ → String) (body : ρ → Action) : Action :=
  match request with
  | .error e =>
    .RespondViaDebug msg.fromPid tag (respond (.InvalidRequest s!"Failed to parse request: {e}"))
  | .ok request =>
    match Path.validatePath (pathOf request) with
    | .error reason => .RespondViaDebug msg.fromPid tag (respond (.InvalidPath reason))
    | .ok () => body request

def handleStat (serde : Serde) (msg : AppMessage) : Action :=
  withRequest msg MSG_VFS_STAT_RESPONSE (fun e => .Stat (.error e)) (serde.statRequest msg.data)
    PathRequest.path (fun request =>
      let permCtx := derivePermissionContext msg.fromPid request.path
      startStorageRead (inodeKey request.path)
        (.GetInode (.fromMessage msg) request.path .Stat permCtx))

def handleExists (serde : Serde) (msg : AppMessage) : Action :=
  withRequest msg MSG_VFS_EXISTS_RESPONSE (fun e => .Exists (.error e))
    (serde.existsRequest msg.data) PathRequest.path (fun request =>
      startStorageExists (inodeKey request.path) (.ExistsCheck (.fromMessage msg) request.path))

def handleRead (serde : Serde) (msg : AppMessage) : Action :=
  withRequest msg MSG_VFS_READ_RESPONSE (fun e => .ReadFile (.error e))
    (serde.readFileRequest msg.data) PathRequest.path (fun request =>
      let permCtx := derivePermissionContext msg.fromPid request.path
      startStorageRead (inodeKey request.path)
        (.GetInode (.fromMessage msg) request.path .ReadFile permCtx))

def handleReaddir (serde : Serde) (msg : AppMessage) : Action :=
  withRequest msg MSG_VFS_READDIR_RESPONSE (fun e => .Readdir (.error e))
    (serde.readdirRequest msg.data) PathRequest.path (fun request =>
      let permCtx := derivePermissionContext msg.fromPid request.path
      startStorageRead (inodeKey request.path)
        (.ReaddirOp (.fromMessage msg) request.path permCtx .ReadingInode))

variable (serde : Serde) (clientCtx : ClientContext) (resultType : UInt8)

def handleStatInodeResult (permCtx : PermissionContext) (resultType : UInt8) (data : List UInt8) :
    Action :=
  let response : Except VfsError Inode :=
    if resultType = READ_OK then
      match serde.inodeFromSlice data with
      | .ok inode => if checkRead inode permCtx then .ok inode else .error .PermissionDenied
      | .error e => .error (.StorageError s!"Failed to parse inode: {e}")
    else if resultType = NOT_FOUND then .error .NotFound
    else
      .error (.StorageError s!"Inode read failed: {resultType} ({resultTypeName resultType})")
  .Respond clientCtx MSG_VFS_STAT_RESPONSE (.Stat response)

def handleExistsInodeResult : Action :=
  .Respond clientCtx MSG_VFS_EXISTS_RESPONSE (.Exists (.ok (resultType = READ_OK)))

def handleReadFileInodeResult (path : String) (permCtx : PermissionContext) (resultType : UInt8)
    (data : List UInt8) : Action :=
  let fail (e : VfsError) : Action :=
    .Respond clientCtx MSG_VFS_READ_RESPONSE (.ReadFile (.error e))
  if resultType = READ_OK then
    match serde.inodeFromSlice data with
    | .ok inode =>
      if inode.isFile then
        if checkRead inode permCtx then
          startStorageRead (contentKey path) (.GetContent clientCtx path permCtx)
        else fail .PermissionDenied
      else fail .NotAFile
    | .error e => fail (.StorageError e)
  else if resultType = NOT_FOUND then fail .NotFound
  else fail (.StorageError (serde.fromUtf8Lossy data))

def handleContentResult (data : List UInt8) : Action :=
  let response : Except VfsError (List UInt8) :=
    if resultType = READ_OK then .ok data
    else if resultType = NOT_FOUND then .error (.StorageError "Content missing for existing inode")
    else
      .error (.StorageError s!"Content read failed: {resultType} ({resultTypeName resultType})")
  .Respond clientCtx MSG_VFS_READ_RESPONSE (.ReadFile response)

def entryOfKey (key : String) : DirEntry where
  name := Path.fileName key
  path := key
  isDirectory := false
  isSymlink := false
  size := 0
  modifiedAt := 0

-- The two handlers of list results differ in what they make of a missing directory.
def listResult (missing : Except VfsError (List DirEntry)) (resultType : UInt8) (data : List UInt8) :
    Action :=
  let response : Except VfsError (List DirEntry) :=
    if resultType = LIST_OK then
      match serde.keysFromSlice data with
      | .ok keys => .ok (keys.map entryOfKey)
      | .error e => .error (.StorageError e)
    else if resultType = NOT_FOUND then missing
    else .error (.StorageError s!"List failed: {resultType} ({resultTypeName resultType})")
  .Respond clientCtx MSG_VFS_READDIR_RESPONSE (.Readdir response)

def handleListChildrenResult (data : List UInt8) : Action :=
  listResult serde clientCtx (.error .NotFound) resultType data

def existsByte (data : List UInt8) : Bool := data.head? = some 1

def handleExistsResult (data : List UInt8) : Action :=
  let response : Except VfsError Bool :=
    if resultType = EXISTS_OK then .ok (existsByte data)
    else if resultType = NOT_FOUND then .ok false
    else
      .error (.StorageError s!"Exists check failed: unexpected result type {resultType}")
  .Respond clientCtx MSG_VFS_EXISTS_RESPONSE (.Exists response)

def handleReaddirReadingInode (path : String) (permCtx : PermissionContext) (resultType : UInt8)
    (data : List UInt8) : Action :=
  let fail (e : VfsError) : Action :=
    .Respond clientCtx MSG_VFS_READDIR_RESPONSE (.Readdir (.error e))
  if resultType = READ_OK then
    match serde.inodeFromSlice data with
    | .ok inode =>
      if inode.isDirectory then
        if checkRead inode permCtx then
          startStorageList (inodeKey path) (.ReaddirOp clientCtx path permCtx .ListingChildren)
        else fail .PermissionDenied
      else fail .NotADirectory
    | .error e => fail (.StorageError s!"Inode corrupt or invalid: {e}")
  else if resultType = NOT_FOUND then fail .NotFound
  else fail (.StorageError s!"Inode read failed: {resultType} ({resultTypeName resultType})")

def handleReaddirListingChildren (data : List UInt8) : Action :=
  listResult serde clientCtx (.ok []) resultType data

def handleReaddirOpResult (path : String) (permCtx : PermissionContext) (stage : ReaddirStage)
    (resultType : UInt8) (data : List UInt8) : Action :=
  match stage with
  | .ReadingInode => handleReaddirReadingInode serde clientCtx path permCtx resultType data
  | .ListingChildren => handleReaddirListingChildren serde clientCtx resultType data

end ZeroOS.Vfs
