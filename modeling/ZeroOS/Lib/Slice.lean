import Mathlib.Tactic.Common

/-!
Slices of a list between bounds that are machine words.
-/

namespace Slice

open List

variable {α : Type}

structure OutOfRange where
  start : Nat
  stop : Nat
  length : Nat
deriving DecidableEq

-- The part from one index to another: both have to lie in the list, in this order.
def slice (xs : List α) (start stop : UInt32) : Except OutOfRange (List α) :=
  if start ≤ stop ∧ stop.toNat ≤ xs.length then
    .ok ((xs.drop start.toNat).take (stop.toNat - start.toNat))
  else .error ⟨start.toNat, stop.toNat, xs.length⟩

def sliceFrom (xs : List α) (start : UInt32) : Except OutOfRange (List α) :=
  if start.toNat ≤ xs.length then .ok (xs.drop start.toNat)
  else .error ⟨start.toNat, xs.length, xs.length⟩

-- A length behind a header of known size, as a sum that does not fit into a word.
def Wraps (header len : UInt32) : Prop := 4294967296 ≤ header.toNat + len.toNat

instance (header len : UInt32) : Decidable (Wraps header len) :=
  inferInstanceAs (Decidable (4294967296 ≤ header.toNat + len.toNat))

lemma toNat_add_of_not_wraps (hf : ¬ Wraps header len) :
    (header + len).toNat = header.toNat + len.toNat := by
  rw [UInt32.toNat_add, Nat.mod_eq_of_lt (Nat.lt_of_not_le hf)]

lemma toNat_add_lt_of_wraps (hw : Wraps header len) : (header + len).toNat < header.toNat := by
  have hl := len.toNat_lt
  rw [Wraps] at hw
  rw [UInt32.toNat_add]
  omega

lemma slice_of_wraps (hw : Wraps header len) :
    slice xs header (header + len) = .error ⟨header.toNat, (header + len).toNat, xs.length⟩ := by
  have hl := toNat_add_lt_of_wraps hw
  rw [slice, if_neg]
  rintro ⟨he, -⟩
  exact absurd (UInt32.le_iff_toNat_le.mp he) (Nat.not_le_of_lt hl)

lemma slice_of_fits (hf : ¬ Wraps header len) (hl : (header + len).toNat ≤ xs.length) :
    slice xs header (header + len) = .ok ((xs.drop header.toNat).take len.toNat) := by
  have hs := toNat_add_of_not_wraps hf
  have he : header ≤ header + len := by
    rw [UInt32.le_iff_toNat_le, hs]
    exact Nat.le_add_right _ _
  rw [slice, if_pos ⟨he, hl⟩, hs, Nat.add_sub_cancel_left]

lemma sliceFrom_of_fits (hf : ¬ Wraps header len) (hl : (header + len).toNat ≤ xs.length) :
    sliceFrom xs (header + len) = .ok ((xs.drop header.toNat).drop len.toNat) := by
  rw [sliceFrom, if_pos hl, toNat_add_of_not_wraps hf, drop_drop]

-- What a list of bounded length keeps: as much of its end as fits.
def recent (cap : Nat) (xs : List α) : List α := xs.drop (xs.length - cap)

lemma recent_of_length_le (hf : xs.length ≤ cap) : recent cap xs = xs := by
  rw [recent, Nat.sub_eq_zero_of_le hf, drop_zero]

lemma length_recent_le : (recent cap xs).length ≤ cap := by
  rw [recent, length_drop]
  omega

lemma recent_recent_append : recent cap (recent cap xs ++ more) = recent cap (xs ++ more) := by
  have hc : xs.length - cap + (xs.length - (xs.length - cap) + more.length - cap) =
      xs.length + more.length - cap := by omega
  simp only [recent, length_append, length_drop]
  rw [← drop_append_of_le_length (Nat.sub_le _ _), drop_drop, hc]

lemma drop_flatMap {f : α → List β} (hl : ∀ x, (f x).length = width) {count : Nat} {xs : List α} :
    (xs.flatMap f).drop (width * count) = (xs.drop count).flatMap f := by
  induction count generalizing xs with
  | zero => rfl
  | succ count ih =>
    cases xs with
    | nil => rw [flatMap_nil, drop_nil, drop_nil, flatMap_nil]
    | cons x xs =>
      rw [flatMap_cons, Nat.mul_succ, Nat.add_comm, ← drop_drop, ← hl x,
        drop_left, hl, ih, drop_succ_cons]

lemma recent_flatMap {f : α → List β} (hl : ∀ x, (f x).length = width) (cap : Nat)
    (xs : List α) : recent (width * cap) (xs.flatMap f) = (recent cap xs).flatMap f := by
  have hc : (xs.flatMap f).length = width * xs.length := by
    simp only [length_flatMap, hl, map_const', sum_replicate_nat, Nat.mul_comm]
  rw [recent, hc, ← Nat.mul_sub, drop_flatMap hl, recent]

end Slice
