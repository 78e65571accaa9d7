import Mathlib.Data.List.Perm.Basic
import Mathlib.Data.List.Nodup
import Mathlib.Data.List.Flatten

/-!
Pools: things that are either free or held in blocks.
-/

structure Pool (α : Type) where
  free : List α
  held : List (List α)

namespace Pool

open List

variable {α : Type}

def all (pool : Pool α) : List α := pool.free ++ pool.held.flatten

-- Every thing of the whole is free or in one block, once.
def Partitions (pool : Pool α) (whole : List α) : Prop := pool.all.Perm whole

-- What is left of the blocks without the things given back.
def withdraw [DecidableEq α] (given : List α) (held : List (List α)) : List (List α) :=
  held.map (fun block => block.filter (· ∉ given))

variable {held : List (List α)} {free given more : List α} {pool : Pool α}

lemma Partitions.take (hp : Partitions ⟨free, held⟩ whole)
    (hf : free.Perm (block ++ rest)) : Partitions ⟨rest, block :: held⟩ whole := by
  refine List.Perm.trans ?_ hp
  show (rest ++ (block ++ held.flatten)).Perm (free ++ held.flatten)
  rw [← append_assoc]
  exact (perm_append_comm.trans hf.symm).append_right _

lemma flatten_withdraw [DecidableEq α] :
    (withdraw given held).flatten = held.flatten.filter (· ∉ given) := by
  rw [withdraw, filter_flatten]

lemma perm_withdraw [DecidableEq α] (hg : given.Nodup) (hh : held.flatten.Nodup)
    (hs : ∀ x ∈ given, x ∈ held.flatten) :
    held.flatten.Perm (given ++ (withdraw given held).flatten) := by
  rw [flatten_withdraw]
  have hr : (given ++ held.flatten.filter (· ∉ given)).Nodup := by
    refine nodup_append.mpr ⟨hg, hh.filter _, ?_⟩
    rintro x hx y hy rfl
    simp [hx] at hy
  rw [perm_ext_iff_of_nodup hh hr]
  simp only [mem_append, mem_filter, decide_eq_true_eq]
  tauto

lemma Partitions.give [DecidableEq α] (hp : Partitions ⟨free, held⟩ whole)
    (hn : whole.Nodup) (hg : given.Nodup) (hs : ∀ x ∈ given, x ∈ held.flatten)
    (hm : more.Perm (given ++ free)) : Partitions ⟨more, withdraw given held⟩ whole := by
  have ha : (free ++ held.flatten).Nodup := hp.nodup_iff.mpr hn
  have hh : held.flatten.Nodup := (nodup_append.mp ha).2.1
  refine List.Perm.trans ?_ hp
  calc
    List.Perm (more ++ (withdraw given held).flatten)
        ((given ++ free) ++ (withdraw given held).flatten) := hm.append_right _
    List.Perm _ ((free ++ given) ++ (withdraw given held).flatten) :=
        perm_append_comm.append_right _
    List.Perm _ (free ++ (given ++ (withdraw given held).flatten)) := by rw [append_assoc]
    List.Perm _ (free ++ held.flatten) := (perm_withdraw hg hh hs).symm.append_left _

lemma Partitions.giveBlock (hp : Partitions ⟨free, held⟩ whole) (hh : held.Perm (block :: rest))
    (hm : more.Perm (block ++ free)) : Partitions ⟨more, rest⟩ whole := by
  refine List.Perm.trans ?_ hp
  have hf : held.flatten.Perm (block ++ rest.flatten) := hh.flatten
  calc
    List.Perm (more ++ rest.flatten) ((block ++ free) ++ rest.flatten) := hm.append_right _
    List.Perm _ ((free ++ block) ++ rest.flatten) := perm_append_comm.append_right _
    List.Perm _ (free ++ (block ++ rest.flatten)) := by rw [append_assoc]
    List.Perm _ (free ++ held.flatten) := hf.symm.append_left _

namespace Partitions

variable {whole : List α} (hp : pool.Partitions whole)

include hp

lemma pairwise_disjoint (hn : whole.Nodup) : pool.held.Pairwise List.Disjoint := by
  have ha : (pool.free ++ pool.held.flatten).Nodup := hp.nodup_iff.mpr hn
  exact (nodup_flatten.mp (nodup_append.mp ha).2.1).2

lemma mem : x ∈ whole ↔ x ∈ pool.free ∨ x ∈ pool.held.flatten := by
  rw [← hp.mem_iff, all, mem_append]

lemma not_both (hn : whole.Nodup) (hf : x ∈ pool.free) : x ∉ pool.held.flatten := by
  have ha : (pool.free ++ pool.held.flatten).Nodup := hp.nodup_iff.mpr hn
  intro hh
  exact (nodup_append.mp ha).2.2 x hf x hh rfl

lemma block_subset (hb : block ∈ pool.held) (hx : x ∈ block) : x ∈ whole :=
  (hp.mem).mpr (Or.inr (mem_flatten.mpr ⟨block, hb, hx⟩))

lemma length_block_le (hb : block ∈ pool.held) :
    pool.free.length + block.length ≤ whole.length := by
  have hs : block.Sublist pool.held.flatten := by
    simpa using (singleton_sublist.mpr hb).flatten
  rw [← hp.length_eq, all, length_append]
  exact Nat.add_le_add_left hs.length_le _

end Partitions

end Pool
