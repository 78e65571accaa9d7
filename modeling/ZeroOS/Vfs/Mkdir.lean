import ZeroOS.Vfs.Json
import ZeroOS.Vfs.Sequential

/-!
Mkdir with `create_parents`.
-/

namespace ZeroOS

open List

-- The path above another one, and below the root.
def Path.Above (ancestor path : String) : Prop :=
  ancestor ≠ "" ∧ ancestor.toList ++ ['/'] <+: path.toList

lemma Path.Above.ne (ha : Path.Above ancestor path) : ancestor ≠ path := by
  rintro rfl
  have hl := ha.2.length_le
  rw [length_append, length_singleton] at hl
  omega

namespace Vfs

def Established (serde : Serde) (before after : Store) (path : String) : Prop :=
  (∀ other, other = path ∨ Path.Above other path → after.DirectoryAt serde other) ∧
    ∀ other bytes, before (inodeKey other) = some bytes → after (inodeKey other) = some bytes

section

variable {serde : Serde} {store final : Store} {outcome : Option Response}

def Made (serde : Serde) (store final : Store) (path : String) : Prop :=
  ∃ inode bytes, inode.isDirectory = true ∧ serde.inodeFromSlice bytes = .ok inode ∧
    final = Function.update store (inodeKey path) (some bytes)

lemma chain_createDirectoryInode (hc : Chain serde store
      (createDirectoryInode serde now ctx path permCtx createParents) final outcome) :
    outcome = some (.Mkdir (.ok ())) ∧ Made serde store final path := by
  obtain ⟨bytes, _, hp, hr⟩ := chain_putInode hc
  cases hr
  exact ⟨rfl, _, bytes, rfl, hp, rfl⟩

lemma chain_creatingParents (hc : Chain serde store
      (.Start (.Exists key) (.MkdirOp ctx path permCtx (.CreatingParents paths index false) true))
      final outcome) : outcome = some (.Mkdir (.ok ())) ∧ Made serde store final path := by
  induction hl : paths.length - index using Nat.strongRecOn generalizing index key with
  | ind _ ih =>
    cases hc with
    | call _ _ hr =>
      simp only [resume, handleMkdirOpResult, handleMkdirCreatingParents, Store.answer, ite_true, mkdirCreatingParentsNext] at hr
      split_ifs at hr with ha
      · exact chain_createDirectoryInode hr
      · exact ih _ (by omega) hr rfl

lemma chain_mkdirMissing
    (hc : Chain serde store (mkdirMissing serde now ctx path permCtx true) final outcome) :
    outcome = some (.Mkdir (.ok ())) ∧ Made serde store final path := by
  rw [mkdirMissing, if_pos rfl] at hc
  split at hc
  · exact chain_createDirectoryInode hc
  · exact chain_creatingParents hc

-- A mkdir with `create_parents` is always answered with success, and makes the directory unless
-- there is something.
lemma chain_mkdir (he : AsksMkdir serde msg request) (hp : request.createParents = true)
    (hc : Chain serde store (handleRequest serde msg) final outcome) :
    outcome = some (.Mkdir (.ok ())) ∧
      (((store (inodeKey request.path)).isSome ∧ final = store) ∨
        (store (inodeKey request.path) = none ∧ Made serde store final request.path)) := by
  rw [(Opens.mkdirExists he).handleRequest_eq, hp] at hc
  cases hc with
  | call _ _ hr =>
    simp only [Store.answer] at hr
    split_ifs at hr with hs
    · cases hr
      exact ⟨rfl, .inl ⟨hs, rfl⟩⟩
    · obtain ⟨ho, hmade⟩ := chain_mkdirMissing hr
      exact ⟨ho, .inr ⟨Option.not_isSome_iff_eq_none.mp hs, hmade⟩⟩

section

variable {path : String} (hmade : Made serde store final path)

include hmade

lemma Made.directoryAt : final.DirectoryAt serde path := by
  obtain ⟨inode, _, hd, hp, rfl⟩ := hmade
  exact ⟨inode, Store.nameSpace_node (Function.update_self ..) hp, hd⟩

lemma Made.other {other : String} (hn : other ≠ path) :
    final (inodeKey other) = store (inodeKey other) := by
  obtain ⟨_, _, _, _, rfl⟩ := hmade
  exact Function.update_of_ne (fun hk => hn (inodeKey_injective hk)) _ _

lemma Made.directoryAt_other {other : String} (hn : other ≠ path) :
    final.DirectoryAt serde other ↔ store.DirectoryAt serde other := by
  simp only [Store.DirectoryAt, Scheme.DirectoryAt, Store.nameSpace, hmade.other hn]

lemma Made.established_iff (hm : store (inodeKey path) = none) :
    Established serde store final path ↔
      ∀ other, Path.Above other path → store.DirectoryAt serde other := by
  constructor
  · intro he other ha
    exact (hmade.directoryAt_other ha.ne).mp (he.1 _ (.inr ha))
  · intro hp
    refine ⟨?_, ?_⟩
    · rintro other (rfl | ha)
      · exact hmade.directoryAt
      · exact (hmade.directoryAt_other ha.ne).mpr (hp _ ha)
    · intro other bytes hb
      have hn : other ≠ path := by
        rintro rfl
        rw [hm] at hb
        cases hb
      rw [hmade.other hn, hb]

end

lemma established_self_iff :
    Established serde store store path ↔
      (∀ other, Path.Above other path → store.DirectoryAt serde other) ∧
        store.DirectoryAt serde path := by
  constructor
  · intro he
    exact ⟨fun other ha => he.1 _ (.inr ha), he.1 _ (.inl rfl)⟩
  · rintro ⟨hp, hd⟩
    refine ⟨?_, fun _ _ hb => hb⟩
    rintro other (rfl | ha)
    · exact hd
    · exact hp _ ha

-- Everything above the path is there already, and so is the path or nothing is in its place.
def Prepared (serde : Serde) (store : Store) (path : String) : Prop :=
  (∀ other, Path.Above other path → store.DirectoryAt serde other) ∧
    (store (inodeKey path) = none ∨ store.DirectoryAt serde path)

lemma chain_established_iff (hr : AsksMkdir serde msg request) (hp : request.createParents = true)
    (hc : Chain serde store (handleRequest serde msg) final outcome) :
    Established serde store final request.path ↔ Prepared serde store request.path := by
  obtain ⟨hs, rfl⟩ | ⟨hm, hmade⟩ := (chain_mkdir hr hp hc).2
  · have ht : final (inodeKey request.path) ≠ none := Option.isSome_iff_ne_none.mp hs
    rw [established_self_iff, Prepared, or_iff_right ht]
  · rw [hmade.established_iff hm, Prepared, and_iff_left (.inl hm)]

end

namespace World

variable {serde : Serde} {msg : AppMessage} {request : MkdirRequest}

lemma mkdir_completes (hr : AsksMkdir serde msg request) (hp : request.createParents = true)
    {store : Store} (hc : Completes serde msg (start store) final) :
    (0, some (.Mkdir (.ok ()))) ∈ final.answers ∧
      (Established serde store final.store request.path ↔ Prepared serde store request.path) := by
  obtain ⟨_, _, hh, ha⟩ := hc.chain start_idle
  refine ⟨?_, chain_established_iff hr hp hh⟩
  rw [ha, (chain_mkdir hr hp hh).1]
  exact mem_append_right _ (mem_singleton_self _)

lemma exists_mkdir_completes (hr : AsksMkdir serde msg request) (store : Store) :
    ∃ final, Completes serde msg (start store) final := by
  refine start_idle.exists_completes ?_
  rw [hr.tag_eq]
  decide

theorem mkdir_establishes_iff (hrequest : AsksMkdir serde msg request)
    (hparents : request.createParents = true) (store : Store) :
    (∀ final, Completes serde msg (start store) final →
        (0, some (.Mkdir (.ok ()))) ∈ final.answers →
        Established serde store final.store request.path) ↔
      Prepared serde store request.path := by
  constructor
  · intro hall
    obtain ⟨final, hc⟩ := exists_mkdir_completes hrequest store
    obtain ⟨ha, hi⟩ := mkdir_completes hrequest hparents hc
    exact hi.mp (hall final hc ha)
  · intro hp final hc _
    exact (mkdir_completes hrequest hparents hc).2.mpr hp

def askMkdir (path : String) : AppMessage where
  tag := MSG_VFS_MKDIR
  fromPid := 10
  capSlots := []
  data := VfsJson.mkdirRequest.encode ⟨path, true⟩

lemma askMkdir_asks (path : String) (hv : Path.validatePath path = .ok ()) :
    AsksMkdir VfsJson.serde (askMkdir path) ⟨path, true⟩ :=
  ⟨rfl, Json.fromSlice_encode VfsJson.mkdirRequest ⟨path, true⟩, hv⟩

-- Only `/system` is above `/system/x`, and it is there.

lemma above_system_x (ha : Path.Above ancestor "/system/x") : ancestor = "/system" := by
  obtain ⟨hn, hp⟩ := ha
  have hc : ∀ n < 10, ("/system/x".toList.take n).getLast? = some '/' → n = 1 ∨ n = 8 := by
    decide +kernel
  have hl := hp.length_le
  have ht := List.prefix_iff_eq_take.mp hp
  obtain hz | hs := hc _ (Nat.lt_succ_of_le hl) (by rw [← ht]; simp)
  · rw [length_append, length_singleton, Nat.add_eq_right, length_eq_zero_iff] at hz
    exact absurd (String.toList_eq_nil_iff.mp hz) hn
  · rw [hs] at ht
    exact String.toList_inj.mp (append_inj_left' ht rfl)

def systemStore : Store :=
  Function.update (fun _ => none) (inodeKey "/system")
    (some (VfsJson.inode.encode (directoryInode "/system" none 0)))

theorem mkdir_establishes_iff_system :
    ∃ final, Completes VfsJson.serde (askMkdir "/system/x") (start systemStore) final ∧
      Established VfsJson.serde systemStore final.store "/system/x" := by
  have hr := askMkdir_asks "/system/x" (by decide +kernel)
  obtain ⟨final, hc⟩ := exists_mkdir_completes hr systemStore
  have ha := (mkdir_completes hr rfl hc).1
  have hp : Prepared VfsJson.serde systemStore "/system/x" := by
    refine ⟨fun other hb => ?_, .inl (by decide +kernel)⟩
    rw [above_system_x hb]
    exact ⟨_, Store.nameSpace_node (Function.update_self ..)
      (Json.fromSlice_encode VfsJson.inode _), rfl⟩
  exact ⟨final, hc, (mkdir_establishes_iff hr rfl systemStore).mpr hp final hc ha⟩

theorem mkdir_leaves_gap :
    ∃ final, Completes VfsJson.serde (askMkdir "/system/x") (start fun _ => none) final ∧
      (0, some (.Mkdir (.ok ()))) ∈ final.answers ∧
      ¬ Established VfsJson.serde (fun _ => none) final.store "/system/x" := by
  have hr := askMkdir_asks "/system/x" (by decide +kernel)
  obtain ⟨final, hc⟩ := exists_mkdir_completes hr fun _ => none
  obtain ⟨ha, hi⟩ := mkdir_completes hr rfl hc
  refine ⟨final, hc, ha, ?_⟩
  intro he
  obtain ⟨hp, _⟩ := hi.mp he
  obtain ⟨_, hn, _⟩ := hp "/system" ⟨by decide, by decide⟩
  cases hn

end World

end Vfs

end ZeroOS
