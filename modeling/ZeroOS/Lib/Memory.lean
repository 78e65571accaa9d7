import Mathlib.Tactic.Common

/-!
Cells addressed by natural numbers, read and written in ranges.
-/

namespace Memory

variable {β : Type}

section

variable (cells : Nat → β) (start : Nat) (data : List β)

def read (count : Nat) : List β :=
  (List.range count).map (fun offset => cells (start + offset))

def write : Nat → β :=
  fun place => if start ≤ place then data[place - start]?.getD (cells place) else cells place

-- The cells from `start` on spell out the data.
def Holds : Prop :=
  read cells start data.length = data

@[simp] lemma length_read : (read cells start count).length = count := by
  simp [read]

end

lemma read_congr (hs : ∀ place, start ≤ place → place < start + count → cells place = other place) :
    read cells start count = read other start count := by
  apply List.map_congr_left
  intro offset ho
  have hl := List.mem_range.mp ho
  exact hs (start + offset) (by omega) (by omega)

lemma read_add :
    read cells start (first + second) =
      read cells start first ++ read cells (start + first) second := by
  simp only [read, List.range_add, List.map_append, List.map_map]
  congr 1
  apply List.map_congr_left
  intro offset _
  simp only [Function.comp_apply, Nat.add_assoc]

lemma take_read (hl : limit ≤ count) :
    (read cells start count).take limit = read cells start limit := by
  obtain ⟨_, rfl⟩ := Nat.exists_eq_add_of_le hl
  rw [read_add, List.take_left' (length_read ..)]

lemma write_outside (cells : Nat → β) (ho : place < start ∨ start + data.length ≤ place) :
    write cells start data place = cells place := by
  unfold write
  split
  · rw [List.getElem?_eq_none (by omega)]
    rfl
  · rfl

lemma write_read (ho : offset < count) :
    write cells start (read other source count) (start + offset) = other (source + offset) := by
  simp [write, read, List.getElem?_range ho]

lemma read_write_same : read (write cells start data) start data.length = data := by
  apply List.ext_getElem
  · simp
  · intro offset hr hd
    simp [read, write, List.getElem?_eq_getElem hd]

lemma read_write_disjoint (ho : other + count ≤ start ∨ start + data.length ≤ other) :
    read (write cells start data) other count = read cells other count := by
  apply read_congr
  intro place hl hh
  exact write_outside _ (by omega)

lemma holds_of_getElem?
    (h : ∀ offset cell, data[offset]? = some cell → cells (start + offset) = cell) :
    Holds cells start data := by
  apply List.ext_getElem
  · simp
  · intro offset hr hd
    rw [← h offset _ (List.getElem?_eq_getElem hd)]
    simp [read]

lemma Holds.nil (cells : Nat → β) (start : Nat) : Holds cells start [] := rfl

lemma holds_append :
    Holds cells start (first ++ second) ↔
      Holds cells start first ∧ Holds cells (start + first.length) second := by
  unfold Holds
  rw [List.length_append, read_add]
  constructor
  · intro h
    exact List.append_inj h (length_read ..)
  · rintro ⟨hf, hs⟩
    rw [hf, hs]

lemma Holds.write_same : Holds (write cells start data) start data := read_write_same

lemma Holds.write_disjoint (h : Holds cells other held)
    (ho : other + held.length ≤ start ∨ start + data.length ≤ other) :
    Holds (write cells start data) other held := by
  unfold Holds
  rw [read_write_disjoint ho]
  exact h

lemma Holds.read {data : List β} (h : Holds cells start data) (hc : data.length = count) :
    read cells start count = data := by
  rw [← hc]
  exact h

end Memory
