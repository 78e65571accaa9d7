import ZeroOS.Lib.Layout
import ZeroOS.Lib.Memory

/-!
Blocks of memory that are moved together, one after the other in a given order.
-/

namespace Packing

open Memory Layout
open Layout (total place)

variable {ρ β : Type} (unit : Nat) (source size : ρ → Nat)

def fetch (cells : Nat → β) (block : ρ) : List β :=
  Memory.read cells (source block * unit) (size block * unit)

def pack (cells : Nat → β) : Nat → List ρ → Nat → β
  | _, [] => cells
  | start, block :: rest =>
    pack (Memory.write cells (start * unit) (fetch unit source size cells block))
      (start + size block) rest

@[simp] lemma length_fetch (cells : Nat → β) (block : ρ) :
    (fetch unit source size cells block).length = size block * unit :=
  length_read ..

lemma pack_append :
    pack unit source size cells start (first ++ second) =
      pack unit source size (pack unit source size cells start first)
        (start + total size first) second := by
  induction first generalizing cells start with
  | nil => rfl
  | cons _ _ ih =>
    rw [List.cons_append, pack, ih, total_cons, ← Nat.add_assoc]
    rfl

lemma pack_outside (cells : Nat → β)
    (ho : here < start * unit ∨ (start + total size blocks) * unit ≤ here) :
    pack unit source size cells start blocks here = cells here := by
  induction blocks generalizing cells start with
  | nil => rfl
  | cons block rest ih =>
    rw [total_cons, ← Nat.add_assoc] at ho
    have hn : start * unit + size block * unit = (start + size block) * unit :=
      (Nat.add_mul ..).symm
    have he : (start + size block) * unit ≤ (start + size block + total size rest) * unit :=
      Nat.mul_le_mul_right unit (Nat.le_add_right ..)
    rw [pack, ih _ (by omega), write_outside]
    rw [length_fetch]
    omega

lemma pack_unit_outside (ho : here < start ∨ start + total size blocks ≤ here)
    (hf : offset < unit) :
    pack unit source size cells start blocks (here * unit + offset) =
      cells (here * unit + offset) := by
  apply pack_outside
  rcases ho with hb | ha
  · left
    calc here * unit + offset < (here + 1) * unit := by rw [Nat.add_mul]; omega
      _ ≤ start * unit := Nat.mul_le_mul_right _ hb
  · right
    exact (Nat.mul_le_mul_right _ ha).trans (Nat.le_add_right ..)

lemma fetch_congr (hs : ∀ here, source block * unit ≤ here → cells here = other here) :
    fetch unit source size cells block = fetch unit source size other block := by
  apply read_congr
  intro here hl _
  exact hs here hl

lemma read_pack :
    read (pack unit source size cells start (before ++ block :: behind))
        ((start + total size before) * unit) (size block * unit) =
      fetch unit source size (pack unit source size cells start before) block := by
  have hk : read (pack unit source size cells start (before ++ block :: behind))
        ((start + total size before) * unit) (size block * unit) =
      read (write (pack unit source size cells start before) ((start + total size before) * unit)
          (fetch unit source size (pack unit source size cells start before) block))
        ((start + total size before) * unit) (size block * unit) := by
    apply read_congr
    intro here _ hh
    rw [pack_append, pack]
    apply pack_outside
    left
    rw [Nat.add_mul]
    exact hh
  rw [hk, ← length_fetch unit source size (pack unit source size cells start before) block]
  exact read_write_same

lemma fetch_pack_of_le (ha : start + total size before ≤ source block) :
    fetch unit source size (pack unit source size cells start before) block =
      fetch unit source size cells block := by
  apply fetch_congr
  intro here hl
  exact pack_outside _ _ _ _ (.inr ((Nat.mul_le_mul_right _ ha).trans hl))

lemma exists_origin (cells : Nat → β) (hlo : start ≤ here) (hh : here < start + total size blocks) :
    ∃ block ∈ blocks, ∃ origin, source block ≤ origin ∧ origin < source block + size block ∧
      ∀ offset < unit, pack unit source size cells start blocks (here * unit + offset) =
        cells (origin * unit + offset) := by
  induction blocks using List.reverseRecOn generalizing here with
  | nil =>
    rw [total_nil] at hh
    omega
  | append_singleton before block ih =>
    rw [total_append, total_cons, total_nil] at hh
    by_cases hb : here < start + total size before
    · -- The last move does not reach it.
      obtain ⟨first, hm, origin, hf, hl, hc⟩ := ih hlo hb
      refine ⟨first, List.mem_append_left _ hm, origin, hf, hl, ?_⟩
      intro offset ho
      rw [pack_append, pack_unit_outside _ _ _ (.inl hb) ho, hc offset ho]
    · -- The last move has put it there.
      obtain ⟨unitNo, rfl⟩ := Nat.exists_eq_add_of_le (Nat.le_of_not_lt hb)
      have hu : unitNo < size block := by omega
      have hmo : ∀ offset < unit,
          pack unit source size cells start (before ++ [block])
              ((start + total size before + unitNo) * unit + offset) =
            pack unit source size cells start before ((source block + unitNo) * unit + offset) := by
        intro offset ho
        have hi : unitNo * unit + offset < size block * unit :=
          calc unitNo * unit + offset < (unitNo + 1) * unit := by rw [Nat.add_mul]; omega
            _ ≤ size block * unit := Nat.mul_le_mul_right _ hu
        rw [pack_append, Nat.add_mul _ unitNo, Nat.add_mul _ unitNo, Nat.add_assoc, Nat.add_assoc]
        exact write_read hi
      by_cases hp : start ≤ source block + unitNo ∧
          source block + unitNo < start + total size before
      · obtain ⟨first, hm, origin, hf, hl, hc⟩ := ih hp.1 hp.2
        refine ⟨first, List.mem_append_left _ hm, origin, hf, hl, ?_⟩
        intro offset ho
        rw [hmo offset ho, hc offset ho]
      · refine ⟨block, by simp, source block + unitNo, by omega, by omega, ?_⟩
        intro offset ho
        rw [hmo offset ho, pack_unit_outside _ _ _ (by omega) ho]

end Packing
