import Mathlib.Data.List.Basic

/-!
Lists threaded through cells.
-/

namespace Links

variable {α : Type}

-- The first cells of a list whose links need not end.
def follow (next : α → α) : Nat → α → List α
  | 0, _ => []
  | count + 1, cell => cell :: follow next count (next cell)

def walk (next : α → Option α) : Nat → α → List α
  | 0, _ => []
  | fuel + 1, cell =>
    cell :: match next cell with
      | some after => walk next fuel after
      | none => []

@[simp] lemma length_follow : (follow next count cell).length = count := by
  induction count generalizing cell with
  | zero => rfl
  | succ _ ih => simp [follow, ih]

lemma follow_congr (hs : ∀ x ∈ follow next count cell, changed x = next x) :
    follow changed count cell = follow next count cell := by
  induction count generalizing cell with
  | zero => rfl
  | succ _ ih =>
    have hc : changed cell = next cell := hs _ List.mem_cons_self
    simp only [follow, hc]
    rw [ih (fun x hx => hs x (List.mem_cons_of_mem _ hx))]

lemma follow_numbered (hn : ∀ i, start ≤ i → i + 1 < start + count → next (cell i) = cell (i + 1)) :
    follow next count (cell start) = (List.range' start count).map cell := by
  induction count generalizing start with
  | zero => rfl
  | succ count ih =>
    rw [follow, List.range'_succ, List.map_cons]
    cases count with
    | zero => rfl
    | succ =>
      rw [hn start (Nat.le_refl _) (by omega), ih]
      intro i hs hi
      exact hn i (by omega) (by omega)

def Chained (next : α → Option α) : List α → Prop
  | [] => True
  | cell :: rest => next cell = rest.head? ∧ Chained next rest

lemma walk_of_chained (hc : Chained next cells) (hf : cells.head? = some first)
    (hu : cells.length ≤ fuel) : walk next fuel first = cells := by
  induction cells generalizing first fuel with
  | nil => simp at hf
  | cons cell rest ih =>
    obtain rfl : cell = first := by simpa using hf
    obtain ⟨hl, hr⟩ := hc
    cases fuel with
    | zero => simp at hu
    | succ fuel =>
      rw [walk, hl]
      cases hh : rest.head? with
      | none =>
        have hn : rest = [] := List.head?_eq_none_iff.mp hh
        rw [hn]
      | some =>
        have he : rest.length ≤ fuel := by
          rw [List.length_cons] at hu
          omega
        simp only
        rw [ih hr hh he]

end Links
