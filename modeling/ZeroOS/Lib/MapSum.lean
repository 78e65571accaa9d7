import Mathlib.Algebra.BigOperators.Group.Multiset.Basic
import ZeroOS.Lib.Map

/-!
Sums over the entries of an ordered map.
-/

namespace BTreeMap

open List
open Std

variable {κ ν : Type} [Ord κ] [TransOrd κ] [LawfulEqOrd κ] [DecidableEq κ]

omit [DecidableEq κ] in
lemma mem_toList (m : BTreeMap κ ν) : entry ∈ m.toList ↔ m[entry.1]? = some entry.2 :=
  ExtTreeMap.mem_toList_iff_getElem?_eq_some

omit [DecidableEq κ] in
lemma mem_of_mem_toList {m : BTreeMap κ ν} (hm : (key, value) ∈ m.toList) : key ∈ m :=
  (mem_iff m).mpr ⟨value, (mem_toList m).mp hm⟩

omit [DecidableEq κ] in
lemma nodup_toList (m : BTreeMap κ ν) : m.toList.Nodup := by
  refine m.distinct_keys_toList.imp ?_
  intro first second hn he
  exact hn (by simp [he])

lemma toList_perm_of_get (m : BTreeMap κ ν) (hg : m[key]? = some value) :
    m.toList.Perm ((key, value) :: (m.erase key).toList) := by
  have hf : (key, value) ∉ (m.erase key).toList := by simp [mem_toList]
  refine (perm_ext_iff_of_nodup m.nodup_toList (nodup_cons.mpr ⟨hf, nodup_toList _⟩)).mpr ?_
  rintro ⟨other, _⟩
  rw [mem_cons, mem_toList, mem_toList, get_erase]
  by_cases he : key = other
  · subst other
    simp [hg, eq_comm]
  · simp [he, Ne.symm he]

omit [DecidableEq κ] in
lemma toList_filter_perm (m : BTreeMap κ ν) (keep : κ → ν → Bool) :
    (m.filter keep).toList.Perm (m.toList.filter fun entry => keep entry.1 entry.2) := by
  refine (perm_ext_iff_of_nodup (nodup_toList _) (m.nodup_toList.filter _)).mpr ?_
  rintro ⟨key, value⟩
  rw [mem_toList, get_filter, mem_filter, mem_toList, Option.filter_eq_some_iff]

section Sum

variable {μ : Type} [AddCommMonoid μ]

def sum (m : BTreeMap κ ν) (f : ν → μ) : μ := (m.toList.map fun entry => f entry.2).sum

lemma sum_of_get (m : BTreeMap κ ν) {f : ν → μ} (hg : m[key]? = some value) :
    sum m f = f value + sum (m.erase key) f := by
  have hp := (m.toList_perm_of_get hg).map fun entry => f entry.2
  rw [sum, hp.sum_eq, map_cons, sum_cons, sum]

lemma sum_insert {m : BTreeMap κ ν} {f : ν → μ} :
    sum (m.insert key value) f = f value + sum (m.erase key) f := by
  have hg : (m.insert key value)[key]? = some value := by simp
  rw [sum_of_get _ hg, erase_insert]

end Sum

section Multiset

variable {α : Type} (m : BTreeMap κ ν) (f : ν → Multiset α)

lemma sum_erase_le : sum (m.erase key) f ≤ sum m f := by
  cases hg : m[key]? with
  | none =>
    have hs : m.erase key = m := by
      apply ext_get
      intro other
      rw [get_erase]
      by_cases he : key = other
      · simp [← he, hg]
      · simp [he]
    rw [hs]
  | some =>
    rw [m.sum_of_get hg]
    exact Multiset.le_add_left _ _

lemma sum_insert_le (key : κ) (value : ν) : sum (m.insert key value) f ≤ f value + sum m f := by
  rw [sum_insert]
  exact Multiset.add_le_add_left (m.sum_erase_le ..)

omit [DecidableEq κ] in
lemma sum_filter_le : sum (m.filter keep) f ≤ sum m f := by
  have hk := (m.toList_filter_perm keep).map fun entry => f entry.2
  have hs := (filter_append_perm (fun entry => keep entry.1 entry.2) m.toList).map
    fun entry => f entry.2
  rw [sum, sum, hk.sum_eq, ← hs.sum_eq, map_append, sum_append]
  exact Multiset.le_add_right _ _

lemma sum_modify_add (hg : m[key]? = some value) (change : ν → ν) :
    sum (m.modify key change) f + f value = sum m f + f (change value) := by
  rw [← m.insert_eq_modify key change hg, sum_insert, m.sum_of_get hg]
  ac_rfl

lemma sum_insert_add (hg : m[key]? = some value) (new : ν) :
    sum (m.insert key new) f + f value = sum m f + f new := by
  rw [sum_insert, m.sum_of_get hg]
  ac_rfl

omit [DecidableEq κ] in
lemma mem_sum : x ∈ sum m f ↔ ∃ (key : κ) (value : ν), m[key]? = some value ∧ x ∈ f value := by
  have hl : ∀ entries : List (κ × ν),
      x ∈ (entries.map fun entry => f entry.2).sum ↔ ∃ entry ∈ entries, x ∈ f entry.2 := by
    intro entries
    induction entries with
    | nil => simp
    | cons entry rest ih => simp [ih]
  rw [sum, hl]
  constructor
  · rintro ⟨entry, hm, hx⟩
    exact ⟨entry.1, entry.2, (m.mem_toList).mp hm, hx⟩
  · rintro ⟨key, value, hg, hx⟩
    exact ⟨(key, value), (m.mem_toList).mpr hg, hx⟩

end Multiset

end BTreeMap
