import Mathlib.Logic.Relation
import ZeroOS.Vfs.Authorised
import ZeroOS.Vfs.Sequential

/-!
The tree of inodes.
-/

namespace ZeroOS

open Function Path

lemma rfindSlash_lt (hs : rfindSlash chars = some pos) : pos < chars.length := by
  obtain ⟨_, hi, rfl⟩ := Option.map_eq_some_iff.mp hs
  obtain ⟨hl, _⟩ := List.findIdx?_eq_some_iff_getElem.mp hi
  rw [List.length_reverse] at hl
  omega

lemma parentPath_ne (hr : path ≠ "/") : parentPath path ≠ path := by
  unfold parentPath
  rw [if_neg hr]
  cases hs : rfindSlash path.toList with
  | none => exact Ne.symm hr
  | some pos =>
    cases pos with
    | zero => exact Ne.symm hr
    | succ =>
      intro he
      have hl := congrArg (fun path => path.toList.length) he
      have ht := rfindSlash_lt hs
      simp only [String.toList_ofList, List.length_take] at hl
      omega

namespace Vfs

open StorageResult

section

variable {serde : Serde} {msg : AppMessage} {store final : Store} {outcome : Option Response}

lemma Store.node_of_read (hr : (store.answer listing (.Read (inodeKey path))).1 = READ_OK)
    (hp : serde.inodeFromSlice (store.answer listing (.Read (inodeKey path))).2 = .ok inode) :
    (store.nameSpace serde).node path = some inode := by
  cases hs : store (inodeKey path) with
  | none =>
    simp only [Store.answer, hs] at hr
    exact absurd hr (by decide)
  | some =>
    simp only [Store.answer, hs] at hp
    exact nameSpace_node hs hp

end

-- What a complete request does to the storage.
inductive Changes (serde : Serde) (msg : AppMessage) (store : Store) : Store → Prop where
  | nothing : Changes serde msg store store
  | wrote {request : WriteFileRequest} {parent inode : Inode} {bytes : List UInt8}
      (hrequest : AsksWrite serde msg request) (hroot : request.path ≠ "/")
      (hparent : (store.nameSpace serde).node (Path.parentPath request.path) = some parent)
      (hdirectory : parent.isDirectory = true)
      (hchecked : checkWrite parent (msg.permCtx request.path) = true)
      (hparse : serde.inodeFromSlice bytes = .ok inode) (hfile : inode.isFile = true)
      (hbelow : inode.parentPath = Path.parentPath request.path) :
      Changes serde msg store
        (Function.update (Function.update store (contentKey request.path) (some request.content))
          (inodeKey request.path) (some bytes))
  | made {request : MkdirRequest} {parent inode : Inode} {bytes : List UInt8}
      (hrequest : AsksMkdir serde msg request) (hmissing : store (inodeKey request.path) = none)
      (hparent : (store.nameSpace serde).node (Path.parentPath request.path) = some parent)
      (hdirectory : parent.isDirectory = true)
      (hparse : serde.inodeFromSlice bytes = .ok inode) (hmade : inode.isDirectory = true)
      (hbelow : inode.parentPath = Path.parentPath request.path) :
      Changes serde msg store (Function.update store (inodeKey request.path) (some bytes))
  | removed {request : RmdirRequest} {inode : Inode} (hrequest : AsksRmdir serde msg request)
      (hinode : (store.nameSpace serde).node request.path = some inode)
      (hdirectory : inode.isDirectory = true)
      (hchecked : checkWrite inode (msg.permCtx request.path) = true) :
      Changes serde msg store (Function.update store (inodeKey request.path) none)
  | unlinked {request : PathRequest} {inode : Inode} (hrequest : AsksUnlink serde msg request)
      (hinode : (store.nameSpace serde).node request.path = some inode)
      (hfile : inode.isFile = true) :
      Changes serde msg store
        (Function.update (Function.update store (contentKey request.path) none)
          (inodeKey request.path) none)

section

variable {serde : Serde} {msg : AppMessage} {store final : Store} {outcome : Option Response}

-- What the rest of a request may do.
abbrev Ends (serde : Serde) (msg : AppMessage) (store final : Store) (outcome : Option Response)
    (action : Action) : Prop :=
  Chain serde store action final outcome → Changes serde msg store final

lemma Ends.respond : Ends serde msg store final outcome (.Respond ctx tag resp) := by
  intro hc
  rw [hc.eq_of_respond]
  exact .nothing

lemma chain_write (hq : AsksWrite serde msg req) (ho : req.path ≠ "/")
    (hc : Chain serde store (.Start (.Read (inodeKey (parentPath req.path)))
      (.WriteFileOp msg.client req.path (msg.permCtx req.path)
        (.CheckingParent req.content))) final outcome) : Changes serde msg store final := by
  cases hc with
  | call _ _ hr =>
    revert hr
    refine checkParent_elim (motive := Ends serde msg store final outcome) (fun e => .respond) ?_
    intro parent hg hr
    have ha := Store.node_of_read hg.read hg.parsed
    cases hr with
    | call _ _ hr =>
      obtain ⟨_, _, hp, hl⟩ := chain_putInode hr
      rw [hl.eq_of_respond]
      exact .wrote hq ho ha hg.directory hg.checked hp rfl rfl

lemma chain_plainMkdir (hq : AsksMkdir serde msg req)
    (hc : Chain serde store (.Start (.Exists (inodeKey req.path))
      (.MkdirOp msg.client req.path (msg.permCtx req.path) .CheckingExists false))
      final outcome) : Changes serde msg store final := by
  cases hc with
  | call _ _ hr =>
    simp only [Store.answer] at hr
    split_ifs at hr with hs
    · rw [hr.eq_of_respond]
      exact .nothing
    · have hm := Option.not_isSome_iff_eq_none.mp hs
      cases hr with
      | call _ _ hr =>
        revert hr
        refine checkParent_elim (motive := Ends serde msg store final outcome)
          (fun e => .respond) ?_
        intro parent hg hr
        have ha := Store.node_of_read hg.read hg.parsed
        obtain ⟨_, _, hp, hl⟩ := chain_putInode hr
        rw [hl.eq_of_respond]
        exact .made hq hm ha hg.directory hp rfl rfl

lemma chain_rmdir (hq : AsksRmdir serde msg req)
    (hc : Chain serde store (.Start (.Read (inodeKey req.path))
      (.GetInode msg.client req.path (.Rmdir req.recursive) (msg.permCtx req.path)))
      final outcome) : Changes serde msg store final := by
  cases hc with
  | call _ _ hr =>
    revert hr
    refine checkDeletion_elim (motive := Ends serde msg store final outcome) (fun e => .respond) ?_
    intro inode hg hr
    have hi := Store.node_of_read hg.read hg.parsed
    cases hr with
    | call _ _ hr =>
      rw [hr.eq_of_respond]
      exact .removed hq hi hg.fits hg.checked

lemma chain_unlink (hq : AsksUnlink serde msg req)
    (hc : Chain serde store (.Start (.Read (inodeKey req.path))
      (.UnlinkOp msg.client req.path (msg.permCtx req.path) .ReadingInode))
      final outcome) : Changes serde msg store final := by
  cases hc with
  | call _ _ hr =>
    revert hr
    refine checkDeletion_elim (motive := Ends serde msg store final outcome) (fun e => .respond) ?_
    intro inode hg hr
    have hi := Store.node_of_read hg.read hg.parsed
    cases hr with
    | call _ _ hr =>
      cases hr with
      | call _ _ hr =>
        rw [hr.eq_of_respond]
        exact .unlinked hq hi hg.fits

-- The requests that only look at something.

lemma chain_read {req : PathRequest} (hc : Chain serde store (.Start (.Read (inodeKey req.path))
      (.GetInode msg.client req.path .ReadFile (msg.permCtx req.path))) final outcome) :
    final = store := by
  cases hc with
  | call _ _ hr =>
    revert hr
    refine handleReadFileInodeResult_elim (motive := fun action =>
      Chain serde store action final outcome → final = store) ?_ ?_
    · exact fun e hr => hr.eq_of_respond
    · intro hr
      cases hr with
      | call _ _ hr => exact hr.eq_of_respond

lemma chain_readdir {req : PathRequest} (hc : Chain serde store (.Start (.Read (inodeKey req.path))
      (.ReaddirOp msg.client req.path (msg.permCtx req.path) .ReadingInode))
      final outcome) : final = store := by
  cases hc with
  | call _ _ hr =>
    revert hr
    refine handleReaddirReadingInode_elim (motive := fun action =>
      Chain serde store action final outcome → final = store) ?_ ?_
    · exact fun e hr => hr.eq_of_respond
    · intro hr
      cases hr with
      | call _ _ hr => exact hr.eq_of_respond

lemma chain_changes (hp : Plain serde msg)
    (hc : Chain serde store (handleRequest serde msg) final outcome) :
    Changes serde msg store final := by
  have hb := handleRequest_begins serde msg
  generalize handleRequest serde msg = action at hb hc
  cases hb with
  | unknown | rejected =>
    cases hc
    exact .nothing
  | starts ho =>
    cases ho with
    | stat hr | existsCheck hr =>
      cases hc with
      | call _ _ hs =>
        rw [hs.eq_of_respond]
        exact .nothing
    | readInode =>
      rw [chain_read hc]
      exact .nothing
    | readdirInode =>
      rw [chain_readdir hc]
      exact .nothing
    | rmdirInode hr => exact chain_rmdir hr hc
    | unlinkInode hr => exact chain_unlink hr hc
    | writeParent hr _ ht => exact chain_write hr ht hc
    | mkdirExists hr =>
      rw [hp _ hr] at hc
      exact chain_plainMkdir hr hc

lemma rmdir_removes (he : AsksRmdir serde msg req) (hb : store (inodeKey req.path) = some bytes)
    (hp : serde.inodeFromSlice bytes = .ok inode) (hd : inode.isDirectory = true)
    (hc : checkWrite inode (msg.permCtx req.path) = true)
    (hh : Chain serde store (handleRequest serde msg) final outcome) :
    final = update store (inodeKey req.path) none := by
  rw [(Opens.rmdirInode he).handleRequest_eq] at hh
  cases hh with
  | call _ _ hr =>
    simp only [resume, handleInodeResult, handleRmdirInodeResult, checkDeletion, Store.answer,
      hb, hp, hd, hc] at hr
    cases hr with
    | call _ _ hr => exact hr.eq_of_respond

lemma write_replaces (hq : AsksWrite serde msg req)
    (hs : req.content.length ≤ MAX_CONTENT_SIZE) (ho : req.path ≠ "/")
    (hb : store (inodeKey (parentPath req.path)) = some bytes)
    (hp : serde.inodeFromSlice bytes = .ok parent) (hd : parent.isDirectory = true)
    (hh : checkWrite parent (msg.permCtx req.path) = true)
    (hc : Chain serde store (handleRequest serde msg) final outcome) :
    final.FileAt serde req.path := by
  rw [(Opens.writeParent hq hs ho).handleRequest_eq] at hc
  cases hc with
  | call _ _ hr =>
    simp only [resume, handleWriteFileOpResult, handleWriteCheckingParent, checkParent,
      Store.answer, hb, hp, hd, hh] at hr
    cases hr with
    | call _ _ hr =>
      obtain ⟨_, _, hw, hl⟩ := chain_putInode hr
      rw [hl.eq_of_respond]
      exact ⟨_, Store.nameSpace_node (update_self ..) hw, rfl⟩

end

-- The inodes form a tree, with contents exactly at the files.
def IsTree (serde : Serde) (store : Store) : Prop := inodeScheme.Tree (store.nameSpace serde)

-- The request does not remove a directory that has children, and does not write a file in the
-- place of a directory.
structure Harmless (serde : Serde) (store : Store) (msg : AppMessage) : Prop where
  rmdir : ∀ request inode, AsksRmdir serde msg request →
    (store.nameSpace serde).node request.path = some inode → inode.isDirectory = true →
    checkWrite inode (msg.permCtx request.path) = true →
    inodeScheme.Childless (store.nameSpace serde) request.path
  write : ∀ request parent, AsksWrite serde msg request →
    (store.nameSpace serde).node (Path.parentPath request.path) = some parent →
    parent.isDirectory = true → checkWrite parent (msg.permCtx request.path) = true →
    ¬ store.DirectoryAt serde request.path

section

variable {serde : Serde} {msg : AppMessage} {store final : Store}

-- Each change of the storage is one of the name space.

lemma nameSpace_putFile (hp : serde.inodeFromSlice bytes = .ok inode) (hf : inode.isFile = true) :
    Store.nameSpace (update (update store (contentKey path) (some content))
        (inodeKey path) (some bytes)) serde =
      (store.nameSpace serde).put path inode (inodeScheme.file inode) := by
  rw [Store.nameSpace_updateInode, Store.nameSpace_updateContent, Option.bind_some, hp]
  rw [show inodeScheme.file inode = true from hf]
  rfl

lemma nameSpace_removeFile :
    Store.nameSpace (update (update store (contentKey path) none) (inodeKey path) none) serde =
      (store.nameSpace serde).remove path := by
  rw [Store.nameSpace_updateInode, Store.nameSpace_updateContent]
  rfl

lemma nameSpace_putDirectory (hp : serde.inodeFromSlice bytes = .ok inode)
    (hd : inode.isDirectory = true) (he : (store.nameSpace serde).content path = false) :
    Store.nameSpace (update store (inodeKey path) (some bytes)) serde =
      (store.nameSpace serde).put path inode (inodeScheme.file inode) := by
  have hf : inodeScheme.file inode = false := by
    by_contra hf
    have hn := inodeScheme.disjoint inode (Bool.not_eq_false _ ▸ hf)
    rw [show inodeScheme.directory inode = true from hd] at hn
    cases hn
  rw [Store.nameSpace_updateInode, Option.bind_some, hp, Namespace.put, hf, ← he, update_eq_self]
  rfl

lemma nameSpace_removeDirectory (he : (store.nameSpace serde).content path = false) :
    Store.nameSpace (update store (inodeKey path) none) serde =
      (store.nameSpace serde).remove path := by
  rw [Store.nameSpace_updateInode, Namespace.remove, ← he, update_eq_self]
  rfl

lemma IsTree.content_eq_false (ht : IsTree serde store) (hf : ¬ store.FileAt serde path) :
    (store.nameSpace serde).content path = false := by
  rw [← Bool.not_eq_true]
  exact fun hc => hf ((ht.contents _).mp hc)

lemma Changes.steps (hch : Changes serde msg store final)
    (hh : Harmless serde store msg) (ht : IsTree serde store) :
    inodeScheme.Steps (store.nameSpace serde) (final.nameSpace serde) := by
  cases hch with
  | nothing => exact .same
  | @wrote req parent inode bytes hr ho hb hd hc hp hg
      hw =>
      rw [nameSpace_putFile hp hg]
      have hl := hh.write req parent hr hb hd hc
      refine .put (fun _ => ?_) (.inr hl)
      rw [show inodeScheme.parent inode = parentPath req.path from hw]
      exact ⟨⟨parent, hb, hd⟩, parentPath_ne ho⟩
  | @made req parent inode bytes hr hm hb hd hp hf hw =>
    have he : (store.nameSpace serde).content req.path = false := by
      refine ht.content_eq_false ?_
      rintro ⟨_, hn, _⟩
      simp [Store.nameSpace, hm] at hn
    rw [nameSpace_putDirectory hp hf he]
    refine .put (fun ho => ?_) (.inl hf)
    rw [show inodeScheme.parent inode = parentPath req.path from hw]
    exact ⟨⟨parent, hb, hd⟩, parentPath_ne ho⟩
  | @removed req inode hr hi hd hc =>
    have ha : inodeScheme.DirectoryAt (store.nameSpace serde) req.path := ⟨inode, hi, hd⟩
    rw [nameSpace_removeDirectory (ht.content_eq_false ha.not_fileAt)]
    exact .remove (hh.rmdir _ _ hr hi hd hc)
  | @unlinked req inode hr hi hg =>
    rw [nameSpace_removeFile]
    have hnn : ¬ inodeScheme.DirectoryAt (store.nameSpace serde) req.path :=
      fun ha => ha.not_fileAt ⟨inode, hi, hg⟩
    exact .remove (Scheme.Tree.childless ht hnn)

end

namespace World

-- A complete request that creates no parents and does no harm.
def Turn (serde : Serde) (world final : World) : Prop :=
  ∃ msg, Plain serde msg ∧ Harmless serde world.store msg ∧ Completes serde msg world final

section

variable {serde : Serde} {store : Store} {world final : World}

lemma Turn.steps (ht : Turn serde world final) (hi : Idle serde world)
    (hr : IsTree serde world.store) :
    Idle serde final ∧
      inodeScheme.Steps (world.store.nameSpace serde) (final.store.nameSpace serde) := by
  obtain ⟨_, hp, hh, hc⟩ := ht
  obtain ⟨hn, _, hch, _⟩ := hc.chain hi
  exact ⟨hn, (chain_changes hp hch).steps hh hr⟩

lemma reached_tree (ht : IsTree serde store)
    (hr : Relation.ReflTransGen (Turn serde) (start store) world) :
    Idle serde world ∧ IsTree serde world.store := by
  induction hr with
  | refl => exact ⟨start_idle, ht⟩
  | tail _ hu ih =>
    obtain ⟨hi, hb⟩ := ih
    obtain ⟨hn, hs⟩ := hu.steps hi hb
    exact ⟨hn, Scheme.Tree.steps hb hs⟩

theorem tree_kept (htree : IsTree serde store)
    (hreached : Relation.ReflTransGen (Turn serde) (start store) world) :
    IsTree serde world.store ∧ ∀ final, Turn serde world final → ∀ path,
      world.store.DirectoryAt serde path → ¬ final.store.FileAt serde path := by
  obtain ⟨hi, hn⟩ := reached_tree htree hreached
  refine ⟨hn, ?_⟩
  intro final ht path hd
  exact (ht.steps hi hn).2.not_replaced hd

end

-- A store with the directories `/`, `/home` and `/home/1`.

def withDirectory (store : Store) (path : String) : Store :=
  Function.update store (inodeKey path)
    (some (VfsJson.inode.encode (directoryInode path none 0)))

def homeTree : Store :=
  withDirectory (withDirectory (withDirectory (fun _ => none) "/") "/home") "/home/1"

section

variable {store : Store} {path : String}

lemma withDirectory_nameSpace (he : store (contentKey path) = none) :
    (withDirectory store path).nameSpace VfsJson.serde =
      (store.nameSpace VfsJson.serde).put path (directoryInode path none 0) false :=
  nameSpace_putDirectory (Json.fromSlice_encode VfsJson.inode _) rfl (by simp [Store.nameSpace, he])

lemma withDirectory_directoryAt (he : store (contentKey path) = none) :
    (withDirectory store path).DirectoryAt VfsJson.serde path := by
  rw [Store.DirectoryAt, withDirectory_nameSpace he, Scheme.directoryAt_put_self]
  rfl

lemma IsTree.withDirectory (ht : IsTree VfsJson.serde store) (he : store (contentKey path) = none)
    (hp : path ≠ "/" → store.DirectoryAt VfsJson.serde (parentPath path)) :
    IsTree VfsJson.serde (withDirectory store path) := by
  rw [IsTree, withDirectory_nameSpace he]
  refine Scheme.Tree.put ht ?_ (.inl rfl)
  exact fun hr => ⟨hp hr, parentPath_ne hr⟩

end

lemma homeTree_isTree : IsTree VfsJson.serde homeTree := by
  have hn : IsTree VfsJson.serde fun _ => none := by
    refine ⟨?_, ?_⟩
    · rintro path node ⟨⟩
    · intro path
      refine iff_of_false Bool.false_ne_true ?_
      rintro ⟨node, ⟨⟩, _⟩
  have hr : parentPath "/home" = "/" := by decide +kernel
  have hh : parentPath "/home/1" = "/home" := by decide +kernel
  refine IsTree.withDirectory (IsTree.withDirectory (IsTree.withDirectory hn rfl ?_) ?_ ?_) ?_ ?_
  · exact fun hr => absurd rfl hr
  · decide +kernel
  · rw [hr]
    exact fun _ => withDirectory_directoryAt rfl
  · decide +kernel
  · rw [hh]
    exact fun _ => withDirectory_directoryAt (by decide +kernel)

lemma exists_completes_start (store : Store) (msg : AppMessage)
    (ht : msg.tag ≠ MSG_STORAGE_RESULT) : ∃ final, Completes VfsJson.serde msg (start store) final :=
  start_idle.exists_completes ht

-- The system process writes a file next to `/home/1`.

def askWriteHome (path : String) : AppMessage where
  tag := MSG_VFS_WRITE
  fromPid := 1
  capSlots := []
  data := VfsJson.writeFileRequest.encode ⟨path, [7]⟩

lemma askWriteHome_asks (path : String) (hv : validatePath path = .ok ()) :
    AsksWrite VfsJson.serde (askWriteHome path) ⟨path, [7]⟩ :=
  ⟨rfl, Json.fromSlice_encode VfsJson.writeFileRequest ⟨path, [7]⟩, hv⟩

lemma askWriteHome_harmless : Harmless VfsJson.serde homeTree (askWriteHome "/home/x") := by
  refine ⟨fun _ _ hr => absurd hr.tag_eq (by decide), ?_⟩
  intro req parent hr _ _ _
  have hp := (askWriteHome_asks "/home/x" (by decide +kernel)).parsed
  rw [hr.parsed] at hp
  cases hp
  rintro ⟨_, hn, _⟩
  have ho : homeTree (inodeKey "/home/x") = none := by decide +kernel
  simp [Store.nameSpace, ho] at hn

theorem tree_kept_homeTree :
    ∃ final, Completes VfsJson.serde (askWriteHome "/home/x") (start homeTree) final ∧
      IsTree VfsJson.serde final.store := by
  obtain ⟨final, hc⟩ := exists_completes_start homeTree (askWriteHome "/home/x") (by decide)
  have hp : Plain VfsJson.serde (askWriteHome "/home/x") :=
    fun _ hr => absurd hr.tag_eq (by decide)
  have ht : Turn VfsJson.serde (start homeTree) final := ⟨_, hp, askWriteHome_harmless, hc⟩
  exact ⟨final, hc, (tree_kept homeTree_isTree (.single ht)).1⟩

-- The system process removes `/home`, and writes a file in the place of `/home/1`.

def askRmdirHome : AppMessage where
  tag := MSG_VFS_RMDIR
  fromPid := 1
  capSlots := []
  data := VfsJson.rmdirRequest.encode ⟨"/home", false⟩

lemma askRmdirHome_asks : AsksRmdir VfsJson.serde askRmdirHome ⟨"/home", false⟩ :=
  ⟨rfl, Json.fromSlice_encode VfsJson.rmdirRequest ⟨"/home", false⟩, by decide +kernel⟩

lemma directory_parsed (path : String) :
    VfsJson.serde.inodeFromSlice (VfsJson.inode.encode (directoryInode path none 0)) =
      .ok (directoryInode path none 0) :=
  Json.fromSlice_encode VfsJson.inode _

lemma homeTree_home : homeTree (inodeKey "/home") =
    some (VfsJson.inode.encode (directoryInode "/home" none 0)) := by
  decide +kernel

lemma homeTree_user : (homeTree.nameSpace VfsJson.serde).node "/home/1" =
    some (directoryInode "/home/1" none 0) := by
  refine Store.nameSpace_node ?_ (directory_parsed "/home/1")
  rw [homeTree, withDirectory, update_self]

theorem tree_broken :
    IsTree VfsJson.serde homeTree ∧
      (∃ final, Completes VfsJson.serde askRmdirHome (start homeTree) final ∧
        ¬ IsTree VfsJson.serde final.store) ∧
      ∃ final, Completes VfsJson.serde (askWriteHome "/home/1") (start homeTree) final ∧
        homeTree.DirectoryAt VfsJson.serde "/home/1" ∧
        final.store.FileAt VfsJson.serde "/home/1" := by
  refine ⟨homeTree_isTree, ?_, ?_⟩
  · obtain ⟨final, hc⟩ := exists_completes_start homeTree askRmdirHome (by decide)
    obtain ⟨_, _, hh, _⟩ := hc.chain start_idle
    refine ⟨final, hc, ?_⟩
    rw [rmdir_removes askRmdirHome_asks homeTree_home (directory_parsed "/home") rfl
      (by decide +kernel) hh]
    intro ht
    have hn : (Store.nameSpace (update homeTree (inodeKey "/home") none)
        VfsJson.serde).node "/home/1" = some (directoryInode "/home/1" none 0) := by
      have he : "/home/1" ≠ "/home" := by decide
      rw [Store.nameSpace_updateInode]
      dsimp only
      rw [update_of_ne he, homeTree_user]
    obtain ⟨_, hp, _⟩ := ht.parents "/home/1" _ hn (by decide)
    have ho : inodeScheme.parent (directoryInode "/home/1" none 0) = "/home" := by
      decide +kernel
    rw [ho, Store.nameSpace_updateInode] at hp
    simp at hp
  · obtain ⟨final, hc⟩ :=
      exists_completes_start homeTree (askWriteHome "/home/1") (by decide)
    obtain ⟨_, _, hh, _⟩ := hc.chain start_idle
    refine ⟨final, hc, ⟨_, homeTree_user, rfl⟩, ?_⟩
    refine write_replaces (askWriteHome_asks "/home/1" (by decide +kernel)) (by decide) (by decide)
      ?_ (directory_parsed "/home") rfl (by decide +kernel) hh
    exact homeTree_home

end World

end Vfs

end ZeroOS
