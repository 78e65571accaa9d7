import ZeroOS.Vfs.Path

/-!
Inodes, permissions, requests and responses of the file system (`zos-vfs`), and the
functions of `serde` that turn them into bytes and back.
-/

namespace ZeroOS

inductive InodeType where
  | File
  | Directory
  | SymLink (target : String)
deriving DecidableEq

structure FilePermissions where
  ownerRead : Bool
  ownerWrite : Bool
  ownerExecute : Bool
  systemRead : Bool
  systemWrite : Bool
  worldRead : Bool
  worldWrite : Bool
deriving DecidableEq

namespace FilePermissions

def userDefault : FilePermissions where
  ownerRead := true
  ownerWrite := true
  ownerExecute := false
  systemRead := true
  systemWrite := false
  worldRead := false
  worldWrite := false

def userDirDefault : FilePermissions where
  ownerRead := true
  ownerWrite := true
  ownerExecute := true
  systemRead := true
  systemWrite := false
  worldRead := false
  worldWrite := false

end FilePermissions

structure Inode where
  path : String
  parentPath : String
  name : String
  inodeType : InodeType
  ownerId : Option UserId
  permissions : FilePermissions
  createdAt : UInt64
  modifiedAt : UInt64
  accessedAt : UInt64
  size : UInt64
  encrypted : Bool
  contentHash : Option (Vector UInt8 32)
deriving DecidableEq

namespace Inode

def newDirectory (path parentPath name : String) (ownerId : Option UserId) (now : UInt64) :
    Inode where
  path := path
  parentPath := parentPath
  name := name
  inodeType := .Directory
  ownerId := ownerId
  permissions := .userDirDefault
  createdAt := now
  modifiedAt := now
  accessedAt := now
  size := 0
  encrypted := false
  contentHash := none

def newFile (path parentPath name : String) (ownerId : Option UserId) (size : UInt64)
    (contentHash : Option (Vector UInt8 32)) (now : UInt64) : Inode where
  path := path
  parentPath := parentPath
  name := name
  inodeType := .File
  ownerId := ownerId
  permissions := .userDefault
  createdAt := now
  modifiedAt := now
  accessedAt := now
  size := size
  encrypted := false
  contentHash := contentHash

def isDirectory (inode : Inode) : Bool := inode.inodeType = .Directory

def isFile (inode : Inode) : Bool := inode.inodeType = .File

lemma not_isDirectory_of_isFile {inode : Inode} (hf : inode.isFile = true) :
    inode.isDirectory = false := by
  simp_all [isFile, isDirectory]

end Inode

structure DirEntry where
  name : String
  path : String
  isDirectory : Bool
  isSymlink : Bool
  size : UInt64
  modifiedAt : UInt64
deriving DecidableEq

inductive VfsError where
  | NotFound
  | AlreadyExists
  | NotADirectory
  | NotAFile
  | PermissionDenied
  | InvalidPath (reason : String)
  | InvalidRequest (reason : String)
  | StorageError (reason : String)
deriving DecidableEq

structure MkdirRequest where
  path : String
  createParents : Bool
deriving DecidableEq

structure RmdirRequest where
  path : String
  recursive : Bool
deriving DecidableEq

structure WriteFileRequest where
  path : String
  content : List UInt8
deriving DecidableEq

structure PathRequest where
  path : String
deriving DecidableEq

inductive Response where
  | Mkdir (result : Except VfsError Unit)
  | Rmdir (result : Except VfsError Unit)
  | Readdir (result : Except VfsError (List DirEntry))
  | WriteFile (result : Except VfsError Unit)
  | ReadFile (result : Except VfsError (List UInt8))
  | Unlink (result : Except VfsError Unit)
  | Stat (result : Except VfsError Inode)
  | Exists (result : Except VfsError Bool)
deriving DecidableEq

-- What `serde_json` and the standard library provide. Inodes survive their way to bytes and
-- back, and every response can be written.
structure Serde where
  mkdirRequest : List UInt8 → Except String MkdirRequest
  rmdirRequest : List UInt8 → Except String RmdirRequest
  readdirRequest : List UInt8 → Except String PathRequest
  writeFileRequest : List UInt8 → Except String WriteFileRequest
  readFileRequest : List UInt8 → Except String PathRequest
  unlinkRequest : List UInt8 → Except String PathRequest
  statRequest : List UInt8 → Except String PathRequest
  existsRequest : List UInt8 → Except String PathRequest
  inodeToVec : Inode → Except String (List UInt8)
  inodeFromSlice : List UInt8 → Except String Inode
  keysFromSlice : List UInt8 → Except String (List String)
  responseToVec : Response → Except String (List UInt8)
  fromUtf8Lossy : List UInt8 → String
  inodeFromSlice_toVec : ∀ inode, ∃ bytes, inodeToVec inode = .ok bytes ∧
    inodeFromSlice bytes = .ok inode
  responseToVec_ok : ∀ response, ∃ bytes, responseToVec response = .ok bytes

inductive ProcessClass where
  | System
  | Runtime
  | Application
deriving DecidableEq

structure PermissionContext where
  userId : Option UserId
  processClass : ProcessClass
deriving DecidableEq

def checkRead (inode : Inode) (ctx : PermissionContext) : Bool :=
  if ctx.processClass = .System ∨ ctx.processClass = .Runtime then inode.permissions.systemRead
  else if ctx.userId.isSome ∧ inode.ownerId = ctx.userId then inode.permissions.ownerRead
  else inode.permissions.worldRead

def checkWrite (inode : Inode) (ctx : PermissionContext) : Bool :=
  if ctx.processClass = .System ∨ ctx.processClass = .Runtime then
    if inode.path = "/home" ∨ "/home/".toList <+: inode.path.toList ∨ inode.ownerId.isSome then true
    else inode.permissions.systemWrite
  else if ctx.userId.isSome ∧ inode.ownerId = ctx.userId then inode.permissions.ownerWrite
  else inode.permissions.worldWrite

def derivePermissionContext (fromPid : UInt32) (path : String) : PermissionContext :=
  let userId := Path.extractUserIdFromPath path
  if fromPid < 10 then ⟨userId, .System⟩ else ⟨userId, .Application⟩

end ZeroOS
