import Mathlib.Algebra.Ring.Nat
import Mathlib.Order.Interval.Finset.Nat

/-!
Blocks of given sizes in a row of cells.
-/

namespace Layout

open List

variable {ρ : Type} (size : ρ → Nat)

def total (blocks : List ρ) : Nat := (blocks.map size).sum

def place : Nat → List ρ → List (Nat × ρ)
  | _, [] => []
  | start, block :: rest => (start, block) :: place (start + size block) rest

-- Placed blocks fill the interval, in order, without gap or overlap.
def Tiles : Nat → List (Nat × ρ) → Nat → Prop
  | low, [], high => low = high
  | low, (start, block) :: rest, high => start = low ∧ Tiles (low + size block) rest high

@[simp] lemma total_nil : total size [] = 0 := rfl

@[simp] lemma total_cons (block : ρ) (rest : List ρ) :
    total size (block :: rest) = size block + total size rest := by
  simp [total]

@[simp] lemma total_append :
    total size (first ++ second) = total size first + total size second := by
  simp [total]

lemma total_map (hs : ∀ block, size (f block) = size block) :
    total size (blocks.map f) = total size blocks := by
  unfold total
  rw [map_map]
  congr 1
  exact map_congr_left (fun block _ => hs _)

lemma place_append (start : Nat) (first second : List ρ) :
    place size start (first ++ second) =
      place size start first ++ place size (start + total size first) second := by
  induction first generalizing start with
  | nil => rfl
  | cons _ _ ih => simp only [cons_append, place, ih, total_cons, Nat.add_assoc]

lemma place_map (hs : ∀ block, size (f block) = size block) :
    place size start (blocks.map f) =
      (place size start blocks).map (fun placed => (placed.1, f placed.2)) := by
  induction blocks generalizing start with
  | nil => rfl
  | cons _ _ ih => simp only [map_cons, place, ih, hs]

lemma map_snd_place (start : Nat) (blocks : List ρ) :
    (place size start blocks).map Prod.snd = blocks := by
  induction blocks generalizing start with
  | nil => rfl
  | cons _ _ ih => simp only [place, map_cons, ih]

lemma length_place : (place size start blocks).length = blocks.length := by
  rw [← length_map Prod.snd, map_snd_place]

lemma length_le_total (hp : ∀ block, 0 < size block) (blocks : List ρ) :
    blocks.length ≤ total size blocks := by
  induction blocks with
  | nil => exact Nat.zero_le _
  | cons block =>
    have hb := hp block
    rw [length_cons, total_cons]
    omega

lemma exists_split_of_mem_place (h : (here, block) ∈ place size start blocks) :
    ∃ before behind, blocks = before ++ block :: behind ∧ here = start + total size before := by
  induction blocks generalizing start with
  | nil => simp [place] at h
  | cons first rest ih =>
    rcases mem_cons.mp h with he | hr
    · obtain ⟨rfl, rfl⟩ := Prod.mk.inj he
      exact ⟨[], rest, rfl, rfl⟩
    · obtain ⟨before, behind, rfl, rfl⟩ := ih hr
      refine ⟨first :: before, behind, rfl, ?_⟩
      rw [total_cons, Nat.add_assoc]

lemma tiles_place (start : Nat) (blocks : List ρ) :
    Tiles size start (place size start blocks) (start + total size blocks) := by
  induction blocks generalizing start with
  | nil => rfl
  | cons _ _ ih =>
    refine ⟨rfl, ?_⟩
    rw [total_cons, ← Nat.add_assoc]
    exact ih _

lemma Tiles.le (h : Tiles size low placed high) : low ≤ high := by
  induction placed generalizing low with
  | nil => exact Nat.le_of_eq h
  | cons p _ ih =>
    have hr := ih h.2
    omega

lemma Tiles.mem_inside (h : Tiles size low placed high) (hp : p ∈ placed) :
    low ≤ p.1 ∧ p.1 + size p.2 ≤ high := by
  induction placed generalizing low with
  | nil => simp at hp
  | cons _ _ ih =>
    obtain ⟨hs, hr⟩ := h
    rcases mem_cons.mp hp with rfl | hm
    · have hl := Tiles.le size hr
      omega
    · have hi := ih hr hm
      omega

lemma Tiles.map (h : Tiles size low placed high) {f : Nat × ρ → Nat × τ}
    (hs : ∀ p ∈ placed, (f p).1 = p.1 ∧ width (f p).2 = size p.2) :
    Tiles width low (placed.map f) high := by
  induction placed generalizing low with
  | nil => exact h
  | cons first _ ih =>
    obtain ⟨ht, hr⟩ := h
    obtain ⟨hl, hw⟩ := hs first mem_cons_self
    refine ⟨hl.trans ht, ?_⟩
    rw [hw]
    exact ih hr (fun p hp => hs p (mem_cons_of_mem _ hp))

lemma total_le_of_disjoint {placed : List (Nat × ρ)}
    (hi : ∀ p ∈ placed, low ≤ p.1 ∧ p.1 + size p.2 ≤ high)
    (hd : placed.Pairwise fun p q => p.1 + size p.2 ≤ q.1 ∨ q.1 + size q.2 ≤ p.1) :
    total size (placed.map Prod.snd) ≤ high - low := by
  -- The cells of the blocks are pairwise different members of the interval.
  have hl : (placed.flatMap fun p => range' p.1 (size p.2)).length =
      total size (placed.map Prod.snd) := by
    simp [total, Function.comp_def]
  have hn : (placed.flatMap fun p => range' p.1 (size p.2)).Nodup := by
    rw [nodup_flatMap]
    refine ⟨fun p _ => nodup_range', hd.imp ?_⟩
    intro p q hpq cell hp hq
    simp only [mem_range'_1] at hp hq
    omega
  have hs : (placed.flatMap fun p => range' p.1 (size p.2)).toFinset ⊆ Finset.Ico low high := by
    intro cell hc
    simp only [mem_toFinset, mem_flatMap, mem_range'_1] at hc
    obtain ⟨p, hp, hc⟩ := hc
    have hp := hi p hp
    exact Finset.mem_Ico.mpr (by omega)
  calc total size (placed.map Prod.snd)
      = (placed.flatMap fun p => range' p.1 (size p.2)).toFinset.card := by
        rw [← hl, toFinset_card_of_nodup hn]
    _ ≤ (Finset.Ico low high).card := Finset.card_le_card hs
    _ = high - low := Nat.card_Ico low high

end Layout
