import Mathlib.Data.List.Basic

/-!
Rings of slots.
-/

namespace Slots

variable {α : Type}

-- The entries numbered from `first` on stand in their slots.
def Holds (slots : List α) (first : Nat) (entries : List α) : Prop :=
  ∀ k < entries.length, slots[(first + k) % slots.length]? = entries[k]?

lemma slot_ne {size first j k : Nat} (hj : j < k) (hk : k < size) :
    (first + j) % size ≠ (first + k) % size := by
  intro he
  have hz := Nat.sub_mod_eq_zero_of_mod_eq he.symm
  rw [Nat.mod_eq_of_lt (by omega)] at hz
  omega

lemma Holds.push (hh : Holds slots first entries) (hr : entries.length < slots.length) (value : α) :
    Holds (slots.set ((first + entries.length) % slots.length) value) first
      (entries ++ [value]) := by
  intro k hk
  rw [List.length_append, List.length_singleton] at hk
  rw [List.length_set]
  by_cases hl : k = entries.length
  · subst hl
    rw [List.getElem?_set_self (Nat.mod_lt _ (by omega))]
    simp
  · have hb : k < entries.length := by omega
    rw [List.getElem?_set_ne (slot_ne hb hr).symm, hh k hb, List.getElem?_append_left hb]

lemma Holds.tail (hh : Holds slots first (entry :: entries)) : Holds slots (first + 1) entries := by
  intro k hk
  have hn := hh (k + 1) (by simpa using hk)
  have hi : first + (k + 1) = first + 1 + k := by omega
  rw [hi] at hn
  simpa using hn

lemma Holds.head (hh : Holds slots first (entry :: entries)) :
    slots[first % slots.length]? = some entry := by
  simpa using hh 0 (by simp)

end Slots
