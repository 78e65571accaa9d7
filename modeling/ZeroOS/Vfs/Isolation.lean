import ZeroOS.Vfs.Json
import ZeroOS.Vfs.Stages

/-!
On whose behalf applications are served.
-/

namespace ZeroOS.Vfs

open Opens Path
open StorageResult

-- The ways to ask for an inode. A write and a mkdir ask for the parent of their path.
inductive Access where
  | Stat
  | Read
  | List
  | Rmdir
  | Unlink
  | Write
  | Mkdir
deriving DecidableEq

namespace Access

-- The type that the inode must have.
def fits : Access → Inode → Bool
  | Stat, _ => true
  | Read, inode | Unlink, inode => inode.isFile
  | List, inode | Rmdir, inode | Write, inode | Mkdir, inode => inode.isDirectory

def ownerMay : Access → FilePermissions → Bool
  | Stat, permissions | Read, permissions | List, permissions => permissions.ownerRead
  | Rmdir, permissions | Unlink, permissions | Write, permissions | Mkdir, permissions =>
    permissions.ownerWrite

def Asked (serde : Serde) (msg : AppMessage) : Access → String → Prop
  | Stat, path => AsksStat serde msg ⟨path⟩
  | Read, path => AsksRead serde msg ⟨path⟩
  | List, path => AsksReaddir serde msg ⟨path⟩
  | Rmdir, path => ∃ recursive, AsksRmdir serde msg ⟨path, recursive⟩
  | Unlink, path => AsksUnlink serde msg ⟨path⟩
  | Write, path => ∃ content, AsksWrite serde msg ⟨path, content⟩ ∧
      content.length ≤ MAX_CONTENT_SIZE ∧ path ≠ "/"
  | Mkdir, path => AsksMkdir serde msg ⟨path, false⟩

end Access

-- The operation that waits for the inode on which the access is decided. A mkdir looks at the
-- parent after it has found its path missing.
def decidingOp (serde : Serde) (msg : AppMessage) : Option PendingOp :=
  match handleRequest serde msg with
  | .Start (.Read _) op => some op
  | .Start (.Exists _) (.MkdirOp ctx path permCtx .CheckingExists false) =>
    some (.MkdirOp ctx path permCtx .CheckingParent false)
  | _ => none

-- The operation goes on, or has what it came for.
def Proceeds : Action → Prop
  | .Start _ _ => True
  | .Respond _ _ (.Stat (.ok _)) => True
  | _ => False

-- The request is granted when storage answers with this inode.
def Grants (serde : Serde) (msg : AppMessage) (inode : Inode) : Prop :=
  ∃ op now data, decidingOp serde msg = some op ∧ serde.inodeFromSlice data = .ok inode ∧
    Proceeds (resume serde now op READ_OK data)

def NamesOwner (serde : Serde) (msg : AppMessage) (inode : Inode) : Prop :=
  ∃ access path, Access.Asked serde msg access path ∧
    Path.extractUserIdFromPath path = inode.ownerId ∧ access.fits inode = true ∧
    access.ownerMay inode.permissions = true

structure Private (inode : Inode) (owner : UserId) : Prop where
  owned : inode.ownerId = some owner
  worldRead : inode.permissions.worldRead = false
  worldWrite : inode.permissions.worldWrite = false

section

variable {serde : Serde} {msg : AppMessage} {inode : Inode} {owner : UserId}

lemma permCtx_application (ha : 10 ≤ msg.fromPid) :
    msg.permCtx path = ⟨extractUserIdFromPath path, .Application⟩ :=
  if_neg (UInt32.not_lt.mpr ha)

lemma checkRead_private (hp : Private inode owner) (ha : 10 ≤ msg.fromPid) :
    checkRead inode (msg.permCtx path) = true ↔
      extractUserIdFromPath path = inode.ownerId ∧ inode.permissions.ownerRead = true := by
  rw [permCtx_application ha]
  unfold checkRead
  rw [hp.owned, hp.worldRead]
  by_cases hn : extractUserIdFromPath path = some owner
  · simp [hn]
  · simp [hn, Ne.symm hn]

lemma checkWrite_private (hp : Private inode owner) (ha : 10 ≤ msg.fromPid) :
    checkWrite inode (msg.permCtx path) = true ↔
      extractUserIdFromPath path = inode.ownerId ∧ inode.permissions.ownerWrite = true := by
  rw [permCtx_application ha]
  unfold checkWrite
  rw [hp.owned, hp.worldWrite]
  by_cases hn : extractUserIdFromPath path = some owner
  · simp [hn]
  · simp [hn, Ne.symm hn]

def Access.check : Access → Inode → PermissionContext → Bool
  | Stat | Read | List => checkRead
  | Rmdir | Unlink | Write | Mkdir => checkWrite

lemma check_private (hp : Private inode owner) (ha : 10 ≤ msg.fromPid)
    (access : Access) (path : String) :
    access.check inode (msg.permCtx path) = true ↔
      extractUserIdFromPath path = inode.ownerId ∧ access.ownerMay inode.permissions = true := by
  cases access
  case Stat => exact checkRead_private hp ha
  case Read => exact checkRead_private hp ha
  case List => exact checkRead_private hp ha
  all_goals exact checkWrite_private hp ha

inductive Decides (serde : Serde) (msg : AppMessage) : Access → String → PendingOp → Prop where
  | stat {path : String} (hasked : Access.Asked serde msg .Stat path) :
      Decides serde msg .Stat path (.GetInode msg.client path .Stat (msg.permCtx path))
  | read {path : String} (hasked : Access.Asked serde msg .Read path) :
      Decides serde msg .Read path (.GetInode msg.client path .ReadFile (msg.permCtx path))
  | list {path : String} (hasked : Access.Asked serde msg .List path) :
      Decides serde msg .List path (.ReaddirOp msg.client path (msg.permCtx path) .ReadingInode)
  | rmdir {path : String} {recursive : Bool} (hasked : AsksRmdir serde msg ⟨path, recursive⟩) :
      Decides serde msg .Rmdir path
        (.GetInode msg.client path (.Rmdir recursive) (msg.permCtx path))
  | unlink {path : String} (hasked : Access.Asked serde msg .Unlink path) :
      Decides serde msg .Unlink path (.UnlinkOp msg.client path (msg.permCtx path) .ReadingInode)
  | write {path : String} {content : List UInt8}
      (hasked : AsksWrite serde msg ⟨path, content⟩)
      (hsize : content.length ≤ MAX_CONTENT_SIZE) (hroot : path ≠ "/") :
      Decides serde msg .Write path
        (.WriteFileOp msg.client path (msg.permCtx path) (.CheckingParent content))
  | mkdir {path : String} (hasked : Access.Asked serde msg .Mkdir path) :
      Decides serde msg .Mkdir path
        (.MkdirOp msg.client path (msg.permCtx path) .CheckingParent false)

lemma Decides.asked (hd : Decides serde msg access path op) : access.Asked serde msg path := by
  cases hd with
  | rmdir ha => exact ⟨_, ha⟩
  | write ha hs hr => exact ⟨_, ha, hs, hr⟩
  | stat ha | read ha | list ha | unlink ha | mkdir ha => exact ha

lemma exists_decides (ha : access.Asked serde msg path) :
    ∃ op, Decides serde msg access path op := by
  cases access with
  | Stat => exact ⟨_, .stat ha⟩
  | Read => exact ⟨_, .read ha⟩
  | List => exact ⟨_, .list ha⟩
  | Rmdir =>
    obtain ⟨_, ha⟩ := ha
    exact ⟨_, .rmdir ha⟩
  | Unlink => exact ⟨_, .unlink ha⟩
  | Write =>
    obtain ⟨_, ha, hs, hr⟩ := ha
    exact ⟨_, .write ha hs hr⟩
  | Mkdir => exact ⟨_, .mkdir ha⟩

lemma Decides.decidingOp_eq (hd : Decides serde msg access path op) :
    decidingOp serde msg = some op := by
  cases hd with
  | stat ha => rw [decidingOp, (Opens.stat ha).handleRequest_eq]
  | read ha => rw [decidingOp, (readInode ha).handleRequest_eq]
  | list ha => rw [decidingOp, (readdirInode ha).handleRequest_eq]
  | rmdir ha => rw [decidingOp, (rmdirInode ha).handleRequest_eq]
  | unlink ha => rw [decidingOp, (unlinkInode ha).handleRequest_eq]
  | write ha hs hr =>
    rw [decidingOp, (writeParent ha hs hr).handleRequest_eq]
  | mkdir ha => rw [decidingOp, (mkdirExists ha).handleRequest_eq]

lemma exists_decides_of_decidingOp (ho : decidingOp serde msg = some op) :
    ∃ access path, Decides serde msg access path op := by
  unfold decidingOp at ho
  have hb := handleRequest_begins serde msg
  generalize handleRequest serde msg = action at hb ho
  cases hb with
  | unknown | rejected => cases ho
  | starts hp =>
    cases hp with
    | stat hr =>
      cases ho
      exact ⟨.Stat, _, .stat hr⟩
    | existsCheck => cases ho
    | readInode hr =>
      cases ho
      exact ⟨.Read, _, .read hr⟩
    | readdirInode hr =>
      cases ho
      exact ⟨.List, _, .list hr⟩
    | rmdirInode hr =>
      cases ho
      exact ⟨.Rmdir, _, .rmdir hr⟩
    | unlinkInode hr =>
      cases ho
      exact ⟨.Unlink, _, .unlink hr⟩
    | writeParent hr hs ht =>
      cases ho
      exact ⟨.Write, _, .write hr hs ht⟩
    | @mkdirExists req hr =>
      obtain ⟨path, createParents⟩ := req
      cases createParents with
      | true => cases ho
      | false =>
        cases ho
        exact ⟨.Mkdir, _, .mkdir hr⟩

lemma proceeds_checkDeletion {data : List UInt8} (hp : serde.inodeFromSlice data = .ok inode)
    (hf : ∀ e, ¬ Proceeds (fail e)) (hg : Proceeds granted) :
    Proceeds (checkDeletion serde permCtx fits misfit READ_OK data fail granted) ↔
      fits inode = true ∧ checkWrite inode permCtx = true := by
  simp only [checkDeletion, hp, ite_true]
  split_ifs with hi hc
  · exact ⟨fun _ => ⟨hi, hc⟩, fun _ => hg⟩
  · exact ⟨fun h => absurd h (hf _), fun h => absurd h.2 hc⟩
  · exact ⟨fun h => absurd h (hf _), fun h => absurd h.1 hi⟩

lemma proceeds_checkParent {data : List UInt8} (hp : serde.inodeFromSlice data = .ok inode)
    (hf : ∀ e, ¬ Proceeds (fail e)) (hg : Proceeds granted) :
    Proceeds (checkParent serde permCtx READ_OK data fail granted) ↔
      inode.isDirectory = true ∧ checkWrite inode permCtx = true := by
  simp only [checkParent, hp, ite_true]
  split_ifs with hd hc
  · exact ⟨fun _ => ⟨hd, hc⟩, fun _ => hg⟩
  · exact ⟨fun h => absurd h (hf _), fun h => absurd h.2 hc⟩
  · exact ⟨fun h => absurd h (hf _), fun h => absurd h.1 hd⟩

lemma Decides.proceeds_iff (hd : Decides serde msg access path op) {data : List UInt8}
    (hp : serde.inodeFromSlice data = .ok inode) (now : UInt64) :
    Proceeds (resume serde now op READ_OK data) ↔
      access.fits inode = true ∧ access.check inode (msg.permCtx path) = true := by
  cases hd with
  | stat =>
    simp only [resume, handleInodeResult, handleStatInodeResult, hp, ite_true, Access.fits,
      Access.check]
    split_ifs with hc
    · simp [Proceeds, hc]
    · simp [Proceeds, hc]
  | read =>
    simp only [resume, handleInodeResult, handleReadFileInodeResult, hp, ite_true,
      Access.fits, Access.check]
    split_ifs with hf hc
    · simp [Proceeds, startStorageRead, hf, hc]
    · simp [Proceeds, hc]
    · simp [Proceeds, hf]
  | list =>
    simp only [resume, handleReaddirOpResult, handleReaddirReadingInode, hp, ite_true,
      Access.fits, Access.check]
    split_ifs with hf hc
    · simp [Proceeds, startStorageList, hf, hc]
    · simp [Proceeds, hc]
    · simp [Proceeds, hf]
  | rmdir | unlink => exact proceeds_checkDeletion hp (fun _ h => h) trivial
  | write => exact proceeds_checkParent hp (fun _ h => h) trivial
  | mkdir =>
    refine proceeds_checkParent hp (fun _ h => h) ?_
    exact putInode_elim fun _ _ => trivial

lemma grants_iff (hr : Private inode owner) (ha : 10 ≤ msg.fromPid) :
    Grants serde msg inode ↔ NamesOwner serde msg inode := by
  constructor
  · rintro ⟨op, now, data, ho, hp, hpr⟩
    obtain ⟨access, path, hd⟩ := exists_decides_of_decidingOp ho
    obtain ⟨hf, hc⟩ := (hd.proceeds_iff hp now).mp hpr
    obtain ⟨hn, hm⟩ := (check_private hr ha access path).mp hc
    exact ⟨access, path, hd.asked, hn, hf, hm⟩
  · rintro ⟨access, path, has, hn, hf, hm⟩
    obtain ⟨op, hd⟩ := exists_decides has
    obtain ⟨data, _, hp⟩ := serde.inodeFromSlice_toVec inode
    have hc := (check_private hr ha access path).mpr ⟨hn, hm⟩
    exact ⟨op, 0, data, hd.decidingOp_eq, hp, (hd.proceeds_iff hp 0).mpr ⟨hf, hc⟩⟩

theorem isolated_iff {first second : AppMessage} (hsame : first.fromPid = second.fromPid)
    (happlication : 10 ≤ first.fromPid) {u v : UserId} {a b : Inode} (ha : Private a u)
    (hb : Private b v) :
    ¬ (Grants serde first a ∧ Grants serde second b) ↔
      ¬ (NamesOwner serde first a ∧ NamesOwner serde second b) := by
  rw [grants_iff ha happlication, grants_iff hb (hsame ▸ happlication)]

end

def privateFile (user : UserId) (path : String) : Inode :=
  Inode.newFile path (Path.parentPath path) (Path.fileName path) (some user) 0 none 0

lemma privateFile_private : Private (privateFile user path) user := ⟨rfl, rfl, rfl⟩

def askRead (path : String) : AppMessage where
  tag := MSG_VFS_READ
  fromPid := 10
  capSlots := []
  data := VfsJson.readFileRequest.encode ⟨path⟩

lemma askRead_fromPid : (askRead path).fromPid = 10 := rfl

lemma askRead_asks (hv : validatePath path = .ok ()) :
    Access.Asked VfsJson.serde (askRead path) .Read path :=
  ⟨rfl, Json.fromSlice_encode VfsJson.readFileRequest ⟨path⟩, hv⟩

lemma path_of_askRead (ha : Access.Asked VfsJson.serde (askRead path) access other) :
    other = path := by
  have ht {tag : UInt32} (hn : MSG_VFS_READ ≠ tag) : (askRead path).tag ≠ tag := hn
  cases access with
  | Read =>
    have hp := ha.parsed.symm.trans (Json.fromSlice_encode VfsJson.readFileRequest ⟨path⟩)
    exact congrArg PathRequest.path (Except.ok.inj hp)
  | Rmdir =>
    obtain ⟨_, ha⟩ := ha
    exact absurd ha.tag_eq (ht (by decide))
  | Write =>
    obtain ⟨_, ha, -⟩ := ha
    exact absurd ha.tag_eq (ht (by decide))
  | _ => exact absurd ha.tag_eq (ht (by decide))

lemma grants_askRead (hv : validatePath path = .ok ())
    (ho : Path.extractUserIdFromPath path = some user) :
    Grants VfsJson.serde (askRead path) (privateFile user path) :=
  (grants_iff privateFile_private (UInt32.le_refl 10)).mpr
    ⟨.Read, path, askRead_asks hv, ho, rfl, rfl⟩

-- The path names the first user, and the file there belongs to the second.
theorem isolated_iff_oneHome :
    Grants VfsJson.serde (askRead "/home/1/a") (privateFile 1 "/home/1/a") ∧
      ¬ (Grants VfsJson.serde (askRead "/home/1/a") (privateFile 1 "/home/1/a") ∧
        Grants VfsJson.serde (askRead "/home/1/b") (privateFile 2 "/home/1/b")) := by
  refine ⟨grants_askRead (by decide +kernel) (by decide), ?_⟩
  refine (isolated_iff (askRead_fromPid.trans askRead_fromPid.symm) (by decide)
    privateFile_private privateFile_private).mpr ?_
  rintro ⟨-, access, path, ha, hn, -⟩
  rw [path_of_askRead ha] at hn
  exact absurd hn (by decide)

-- One application, two users: each file is asked for by the home directory of its owner.
theorem two_owners_served :
    Private (privateFile 1 "/home/1/a") 1 ∧ Private (privateFile 2 "/home/2/b") 2 ∧
      Grants VfsJson.serde (askRead "/home/1/a") (privateFile 1 "/home/1/a") ∧
      Grants VfsJson.serde (askRead "/home/2/b") (privateFile 2 "/home/2/b") :=
  ⟨privateFile_private, privateFile_private, grants_askRead (by decide +kernel) (by decide),
    grants_askRead (by decide +kernel) (by decide)⟩

end ZeroOS.Vfs
