import Mathlib.Algebra.Ring.Nat
import Mathlib.Tactic.Common

/-!
A 64-bit counter that hands out ids from one upwards and wraps around.
-/

namespace Counter

-- After `count` ids have been handed out the next one is `next`, and the ids in use are among
-- those handed out.
structure Counted (count : Nat) (next : UInt64) (used : UInt64 → Prop) : Prop where
  next : next.toNat = (count + 1) % 2 ^ 64
  bound : count < 2 ^ 64 → ∀ id, used id → 1 ≤ id.toNat ∧ id.toNat ≤ count

variable {count : Nat} {next : UInt64} {used after : UInt64 → Prop}

section

variable (hcounted : Counted count next used)

include hcounted

lemma Counted.fresh (hc : count < 2 ^ 64) : ¬ used next := by
  intro hu
  have hb := hcounted.bound hc _ hu
  have hn := hcounted.next
  by_cases hw : count + 1 < 2 ^ 64
  · rw [Nat.mod_eq_of_lt hw] at hn
    omega
  · have hz : (count + 1) % 2 ^ 64 = 0 := by omega
    omega

lemma Counted.lt_next (hc : count + 1 < 2 ^ 64) {id : UInt64} (hu : used id) : id < next := by
  have hb := hcounted.bound (by omega) id hu
  have hn := hcounted.next
  rw [UInt64.lt_iff_toNat_lt]
  omega

lemma Counted.keep (hs : ∀ id, after id → used id) : Counted count next after :=
  ⟨hcounted.next, fun hc id ha => hcounted.bound hc id (hs id ha)⟩

lemma Counted.take (hs : ∀ id, after id → id = next ∨ used id) :
    Counted (count + 1) (next + 1) after := by
  have hn := hcounted.next
  refine ⟨?_, ?_⟩
  · rw [UInt64.toNat_add, UInt64.toNat_one]
    omega
  · intro hc id ha
    rcases hs id ha with rfl | ho
    · rw [hn]
      omega
    · have hb := hcounted.bound (by omega) id ho
      omega

lemma Counted.step (ht : (moved = next ∧ ∀ id, after id → used id) ∨
      (moved = next + 1 ∧ ∀ id, after id → id = next ∨ used id)) :
    Counted (if moved = next then count else count + 1) moved after := by
  rcases ht with ⟨ha, hs⟩ | ⟨hm, hs⟩
  · rw [if_pos ha, ha]
    exact hcounted.keep hs
  · rw [if_neg (by rw [hm]; simp), hm]
    exact hcounted.take hs

end

lemma counted_one : Counted 0 1 fun _ => False := ⟨by decide, fun _ _ h => h.elim⟩

end Counter
