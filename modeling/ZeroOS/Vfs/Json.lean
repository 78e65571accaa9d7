import ZeroOS.Lib.Json
import ZeroOS.Vfs.Service

/-!
The requests, inodes and responses of the file system as JSON texts, for running the service on
concrete messages.
-/

namespace ZeroOS.VfsJson

open Json

def symLink : Codec String := (string.object "target").object "SymLink"

def inodeType : Codec InodeType where
  encode
    | .File => string.encode "File"
    | .Directory => string.encode "Directory"
    | .SymLink target => symLink.encode target
  decode chars :=
    match symLink.decode chars with
    | some (target, rest) => some (.SymLink target, rest)
    | none => (string.decode chars).map fun read =>
      (if read.1 = "File" then .File else .Directory, read.2)
  decode_encode type rest hr := by
    have hs (name : String) : symLink.decode (string.encode name ++ rest) = none := rfl
    cases type with
    | File | Directory => simp only [hs, string.decode_encode _ _ hr, Option.map_some]; rfl
    | SymLink target => simp only [symLink.decode_encode target rest hr]

def permissions : Codec FilePermissions :=
  ((bool.field "owner_write" (bool.field "owner_execute" (bool.field "system_read"
    (bool.field "system_write" (bool.field "world_read"
      (bool.field "world_write" bool)))))).object "owner_read").via
    (fun p => (p.ownerRead, p.ownerWrite, p.ownerExecute, p.systemRead, p.systemWrite,
      p.worldRead, p.worldWrite))
    (fun v => ⟨v.1, v.2.1, v.2.2.1, v.2.2.2.1, v.2.2.2.2.1, v.2.2.2.2.2.1, v.2.2.2.2.2.2⟩)
    fun _ => rfl

def hashOfList (bytes : List UInt8) : Vector UInt8 32 :=
  if hlength : bytes.toArray.size = 32 then ⟨bytes.toArray, hlength⟩ else Vector.replicate 32 0

lemma hashOfList_toList (hash : Vector UInt8 32) : hashOfList hash.toList = hash := by
  have hl : hash.toList.toArray.size = 32 := by simp
  rw [hashOfList, dif_pos hl]
  apply Vector.toArray_inj.mp
  exact Array.toArray_toList

def hash : Codec (Vector UInt8 32) := bytes.via Vector.toList hashOfList hashOfList_toList

def inode : Codec Inode :=
  ((string.field "parent_path" (string.field "name" (string.field "inode_type"
    (inodeType.field "owner_id" ((hex128.option fun _ => rfl).field "permissions"
      (permissions.field "created_at" (word.field "modified_at" (word.field "accessed_at"
        (word.field "size" (word.field "encrypted" (bool.field "content_hash"
          (hash.option fun _ => rfl)))))))))))).object "path").via
    (fun i => (i.path, i.parentPath, i.name, i.inodeType, i.ownerId, i.permissions, i.createdAt,
      i.modifiedAt, i.accessedAt, i.size, i.encrypted, i.contentHash))
    (fun (path, parentPath, name, inodeType, ownerId, permissions, createdAt, modifiedAt,
      accessedAt, size, encrypted, contentHash) => ⟨path, parentPath, name, inodeType, ownerId,
        permissions, createdAt, modifiedAt, accessedAt, size, encrypted, contentHash⟩)
    fun _ => rfl

def mkdirRequest : Codec MkdirRequest :=
  ((string.field "create_parents" bool).object "path").via (fun r => (r.path, r.createParents))
    (fun v => ⟨v.1, v.2⟩) fun _ => rfl

def rmdirRequest : Codec RmdirRequest :=
  ((string.field "recursive" bool).object "path").via (fun r => (r.path, r.recursive))
    (fun v => ⟨v.1, v.2⟩) fun _ => rfl

-- Whether the file is to be encrypted is not looked at.
def writeFileRequest : Codec WriteFileRequest :=
  ((string.field "content" (bytes.field "encrypt" bool)).object "path").via
    (fun r => (r.path, r.content, false)) (fun v => ⟨v.1, v.2.1⟩) fun _ => rfl

-- Nor which part of it is to be read.
def readFileRequest : Codec PathRequest :=
  ((string.field "offset" (null.field "length" null)).object "path").via (fun r => (r.path, (), ()))
    (fun v => ⟨v.1⟩) fun _ => rfl

def pathRequest : Codec PathRequest :=
  (string.object "path").via PathRequest.path PathRequest.mk fun _ => rfl

def dirEntry : Codec DirEntry :=
  ((string.field "path" (string.field "is_directory" (bool.field "is_symlink"
    (bool.field "size" (word.field "modified_at" word))))).object "name").via
    (fun e => (e.name, e.path, e.isDirectory, e.isSymlink, e.size, e.modifiedAt))
    (fun v => ⟨v.1, v.2.1, v.2.2.1, v.2.2.2.1, v.2.2.2.2.1, v.2.2.2.2.2⟩) fun _ => rfl

def error : VfsError → List UInt8
  | .NotFound => string.encode "NotFound"
  | .AlreadyExists => string.encode "AlreadyExists"
  | .NotADirectory => string.encode "NotADirectory"
  | .NotAFile => string.encode "NotAFile"
  | .PermissionDenied => string.encode "PermissionDenied"
  | .InvalidPath reason => (string.object "InvalidPath").encode reason
  | .InvalidRequest reason => (string.object "InvalidRequest").encode reason
  | .StorageError reason => (string.object "StorageError").encode reason

def response : Response → List UInt8
  | .Mkdir outcome | .Rmdir outcome | .WriteFile outcome | .Unlink outcome => result null error outcome
  | .Readdir outcome => result (dirEntry.list fun _ => rfl) error outcome
  | .ReadFile outcome => result bytes error outcome
  | .Stat outcome => result inode error outcome
  | .Exists outcome => result bool error outcome

def serde : Serde where
  mkdirRequest := fromSlice mkdirRequest
  rmdirRequest := fromSlice rmdirRequest
  readdirRequest := fromSlice pathRequest
  writeFileRequest := fromSlice writeFileRequest
  readFileRequest := fromSlice readFileRequest
  unlinkRequest := fromSlice pathRequest
  statRequest := fromSlice pathRequest
  existsRequest := fromSlice pathRequest
  inodeToVec value := .ok (inode.encode value)
  inodeFromSlice := fromSlice inode
  keysFromSlice := fromSlice strings
  responseToVec value := .ok (response value)
  fromUtf8Lossy bytes := (fromUtf8 bytes).getD "�"
  inodeFromSlice_toVec value := ⟨_, rfl, fromSlice_encode inode value⟩
  responseToVec_ok _ := ⟨_, rfl⟩

-- Syscalls that succeed, with this id for a storage call.
def nextId (id : Int64) : Vfs.Syscalls := ⟨fun _ _ => .ok id, fun _ _ _ => .ok (), 0⟩

example : mkdirRequest.encode ⟨"/home/1", true⟩ =
    utf8Bytes "\x7b\"path\":\"/home/1\",\"create_parents\":true\x7d" := by
  decide +kernel

end ZeroOS.VfsJson
