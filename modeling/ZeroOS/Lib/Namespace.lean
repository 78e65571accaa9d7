import Mathlib.Logic.Function.Basic

/-!
Hierarchical name spaces.
-/

-- How nodes name their parents and which of them are directories and files.
structure Scheme (π ν : Type) where
  root : π
  parent : ν → π
  directory : ν → Bool
  file : ν → Bool
  disjoint : ∀ node, file node = true → directory node = false

@[ext]
structure Namespace (π ν : Type) where
  node : π → Option ν
  content : π → Bool

namespace Namespace

variable {π ν : Type} [DecidableEq π]

def put (space : Namespace π ν) (path : π) (node : ν) (content : Bool) : Namespace π ν :=
  ⟨Function.update space.node path (some node), Function.update space.content path content⟩

def remove (space : Namespace π ν) (path : π) : Namespace π ν :=
  ⟨Function.update space.node path none, Function.update space.content path false⟩

section

variable (space : Namespace π ν) (path other : π)

lemma put_node {node : ν} {content : Bool} :
    (space.put path node content).node other =
      if other = path then some node else space.node other :=
  Function.update_apply ..

lemma remove_node :
    (space.remove path).node other = if other = path then none else space.node other :=
  Function.update_apply ..

end

end Namespace

namespace Scheme

variable {π ν : Type} (scheme : Scheme π ν) (space : Namespace π ν)

def DirectoryAt (path : π) : Prop :=
  ∃ node, space.node path = some node ∧ scheme.directory node = true

def FileAt (path : π) : Prop := ∃ node, space.node path = some node ∧ scheme.file node = true

structure Tree : Prop where
  parents : ∀ path node, space.node path = some node → path ≠ scheme.root →
    scheme.DirectoryAt space (scheme.parent node)
  contents : ∀ path, space.content path = true ↔ scheme.FileAt space path

def Childless (path : π) : Prop :=
  ∀ other node, space.node other = some node → other ≠ scheme.root → other ≠ path →
    scheme.parent node ≠ path

variable {scheme space}

lemma DirectoryAt.not_fileAt (hd : scheme.DirectoryAt space path) : ¬ scheme.FileAt space path := by
  obtain ⟨node, hn, hd⟩ := hd
  rintro ⟨_, ho, hf⟩
  cases hn.symm.trans ho
  rw [scheme.disjoint node hf] at hd
  cases hd

lemma Tree.childless (ht : scheme.Tree space) (hn : ¬ scheme.DirectoryAt space path) :
    scheme.Childless space path := by
  rintro other node ho hr _ rfl
  exact hn (ht.parents _ _ ho hr)

section

variable [DecidableEq π]

lemma directoryAt_put_other (hn : other ≠ path) :
    scheme.DirectoryAt (space.put path node content) other ↔ scheme.DirectoryAt space other := by
  simp only [DirectoryAt, Namespace.put_node, if_neg hn]

lemma directoryAt_put_self :
    scheme.DirectoryAt (space.put path node content) path ↔ scheme.directory node = true := by
  simp [DirectoryAt, Namespace.put_node]

lemma fileAt_put_other (hn : other ≠ path) :
    scheme.FileAt (space.put path node content) other ↔ scheme.FileAt space other := by
  simp only [FileAt, Namespace.put_node, if_neg hn]

lemma fileAt_put_self :
    scheme.FileAt (space.put path node content) path ↔ scheme.file node = true := by
  simp [FileAt, Namespace.put_node]

lemma directoryAt_remove_other (hn : other ≠ path) :
    scheme.DirectoryAt (space.remove path) other ↔ scheme.DirectoryAt space other := by
  simp only [DirectoryAt, Namespace.remove_node, if_neg hn]

lemma fileAt_remove_other (hn : other ≠ path) :
    scheme.FileAt (space.remove path) other ↔ scheme.FileAt space other := by
  simp only [FileAt, Namespace.remove_node, if_neg hn]

lemma not_fileAt_remove : ¬ scheme.FileAt (space.remove path) path := by
  simp [FileAt, Namespace.remove_node]

lemma Tree.put (ht : scheme.Tree space) (hp : path ≠ scheme.root →
      scheme.DirectoryAt space (scheme.parent node) ∧ scheme.parent node ≠ path)
    (hl : scheme.directory node = true ∨ ¬ scheme.DirectoryAt space path) :
    scheme.Tree (space.put path node (scheme.file node)) := by
  refine ⟨?_, ?_⟩
  · intro other found hg hr
    rw [Namespace.put_node] at hg
    by_cases he : other = path
    · rw [if_pos he] at hg
      cases hg
      obtain ⟨hd, hb⟩ := hp (he ▸ hr)
      exact (directoryAt_put_other hb).mpr hd
    · rw [if_neg he] at hg
      have hd := ht.parents other found hg hr
      by_cases ha : scheme.parent found = path
      · rw [ha] at hd ⊢
        exact directoryAt_put_self.mpr (hl.resolve_right (not_not_intro hd))
      · exact (directoryAt_put_other ha).mpr hd
  · intro other
    rw [show (space.put path node _).content other = _ from Function.update_apply ..]
    by_cases he : other = path
    · rw [if_pos he, he, fileAt_put_self]
    · rw [if_neg he, fileAt_put_other he]
      exact ht.contents _

lemma Tree.remove (ht : scheme.Tree space) {path : π}
    (hc : scheme.Childless space path) : scheme.Tree (space.remove path) := by
  refine ⟨?_, ?_⟩
  · intro other found hg hr
    rw [Namespace.remove_node] at hg
    by_cases he : other = path
    · rw [if_pos he] at hg
      cases hg
    · rw [if_neg he] at hg
      have ha := hc other found hg hr he
      exact (directoryAt_remove_other ha).mpr (ht.parents _ _ hg hr)
  · intro other
    rw [show (space.remove path).content other = _ from Function.update_apply ..]
    by_cases he : other = path
    · rw [if_pos he, he]
      exact iff_of_false Bool.false_ne_true not_fileAt_remove
    · rw [if_neg he, fileAt_remove_other he]
      exact ht.contents _

-- The changes under which a tree stays one.
inductive Steps (scheme : Scheme π ν) (space : Namespace π ν) : Namespace π ν → Prop where
  | same : Steps scheme space space
  | put {path : π} {node : ν}
      (hparent : path ≠ scheme.root →
        scheme.DirectoryAt space (scheme.parent node) ∧ scheme.parent node ≠ path)
      (hplace : scheme.directory node = true ∨ ¬ scheme.DirectoryAt space path) :
      Steps scheme space (space.put path node (scheme.file node))
  | remove {path : π} (hchildless : scheme.Childless space path) :
      Steps scheme space (space.remove path)

lemma Tree.steps (ht : scheme.Tree space) (hs : scheme.Steps space next) : scheme.Tree next := by
  cases hs with
  | same => exact ht
  | put hp hl => exact ht.put hp hl
  | remove hc => exact ht.remove hc

lemma Steps.not_replaced (hs : scheme.Steps space next)
    (hd : scheme.DirectoryAt space path) : ¬ scheme.FileAt next path := by
  cases hs with
  | same => exact hd.not_fileAt
  | @put place node ha hp =>
    by_cases he : path = place
    · subst he
      have hn := hp.resolve_right (not_not_intro hd)
      exact (directoryAt_put_self.mpr hn).not_fileAt
    · rw [fileAt_put_other he]
      exact hd.not_fileAt
  | @remove place hc =>
    by_cases he : path = place
    · subst he
      exact not_fileAt_remove
    · rw [fileAt_remove_other he]
      exact hd.not_fileAt

end

end Scheme
