import Mathlib.Data.List.Forall2

/-!
Runs of a deterministic transition system.
-/

namespace Run

open List

variable {σ α β : Type} (step : σ → α → σ)

def run (state : σ) (actions : List α) : σ := actions.foldl step state

def Along (cond : σ → α → Prop) : σ → List α → Prop
  | _, [] => True
  | state, action :: rest => cond state action ∧ Along cond (step state action) rest

-- What holds in every state of a run, the first and the last included.
def Always (good : σ → Prop) : σ → List α → Prop
  | state, [] => good state
  | state, action :: rest => good state ∧ Always good (step state action) rest

-- What the actions of a run show, in order.
def observed (observe : σ → α → List β) : σ → List α → List β
  | _, [] => []
  | state, action :: rest => observe state action ++ observed observe (step state action) rest

-- The states of a run that never ends.
def trace (state : σ) (actions : Nat → α) : Nat → σ
  | 0 => state
  | n + 1 => step (trace state actions n) (actions n)

@[simp] lemma run_nil : run step state [] = state := rfl

@[simp] lemma run_cons : run step state (action :: rest) = run step (step state action) rest := rfl

lemma run_append : run step state (first ++ second) = run step (run step state first) second :=
  foldl_append

variable {inv : σ → Prop} {cond lawful : σ → α → Prop}

lemma Along.mono {weaker : σ → α → Prop}
    (hi : ∀ state action, cond state action → weaker state action)
    (h : Along step cond state actions) : Along step weaker state actions := by
  induction actions generalizing state with
  | nil => trivial
  | cons _ _ ih => exact ⟨hi _ _ h.1, ih h.2⟩

lemma along_of_forall (ha : ∀ state action, cond state action) (state : σ) :
    Along step cond state actions := by
  induction actions generalizing state with
  | nil => trivial
  | cons action _ ih => exact ⟨ha state action, ih _⟩

lemma along_of_forall_mem {cond : α → Prop} (ha : ∀ action ∈ actions, cond action) (state : σ) :
    Along step (fun _ action => cond action) state actions := by
  induction actions generalizing state with
  | nil => trivial
  | cons action _ ih =>
    exact ⟨ha action (by simp), ih (fun other hm => ha other (by simp [hm])) _⟩

lemma along_append :
    Along step cond state (first ++ second) ↔
      Along step cond state first ∧ Along step cond (run step state first) second := by
  induction first generalizing state with
  | nil => simp [Along]
  | cons _ _ ih => simp only [cons_append, Along, run_cons, ih, and_assoc]

lemma along_of_split (hs : ∀ before action after, actions = before ++ action :: after →
      cond (run step state before) action) : Along step cond state actions := by
  induction actions generalizing state with
  | nil => trivial
  | cons action rest ih =>
    refine ⟨hs [] action rest rfl, ih ?_⟩
    intro before next after he
    exact hs (action :: before) next after (by rw [he, cons_append])

lemma observed_append :
    observed step observe state (first ++ second) =
      observed step observe state first ++ observed step observe (run step state first) second := by
  induction first generalizing state with
  | nil => rfl
  | cons _ _ ih => simp only [cons_append, observed, run_cons, ih, append_assoc]

lemma observed_length_le (observe : σ → α → List β) (state : σ) (first second : List α) :
    (observed step observe state first).length ≤
      (observed step observe state (first ++ second)).length := by
  rw [observed_append, length_append]
  exact Nat.le_add_right _ _

lemma run_invariant (cond : σ → α → Prop) (inv : σ → Prop)
    (hs : ∀ state action, inv state → cond state action → inv (step state action))
    (hi : inv state) (hc : Along step cond state actions) : inv (run step state actions) := by
  induction actions generalizing state with
  | nil => exact hi
  | cons _ _ ih => exact ih (hs _ _ hi hc.1) hc.2

lemma Always.last (ha : Always step good state actions) : good (run step state actions) := by
  induction actions generalizing state with
  | nil => exact ha
  | cons _ _ ih => exact ih ha.2

-- What one action preserves exactly under a condition holds all along a run exactly if the
-- condition does.
lemma always_iff_along
    (hinv : ∀ state action, inv state → lawful state action → inv (step state action))
    (hs : ∀ state action, inv state → good state → lawful state action →
      (good (step state action) ↔ cond state action)) (hi : inv state) (hg : good state)
    (hl : Along step lawful state actions) :
    Always step good state actions ↔ Along step cond state actions := by
  induction actions generalizing state with
  | nil => exact iff_of_true hg trivial
  | cons action rest ih =>
    have hn := hs state action hi hg hl.1
    constructor
    · intro hw
      have ha : good (step state action) := by
        cases rest with
        | nil => exact hw.2
        | cons => exact hw.2.1
      exact ⟨hn.mp ha, (ih (hinv _ _ hi hl.1) ha hl.2).mp hw.2⟩
    · intro ho
      have ha := hn.mpr ho.1
      exact ⟨hg, (ih (hinv _ _ hi hl.1) ha hl.2).mpr ho.2⟩

section

variable {good : σ → α → Prop}
  (hinv : ∀ state action, inv state → good state action → inv (step state action))

include hinv

lemma along_iff_along_of_lawful (hs : ∀ state action, inv state → lawful state action →
      (good state action ↔ cond state action)) (hi : inv state)
    (hl : Along step lawful state actions) :
    Along step good state actions ↔ Along step cond state actions := by
  induction actions generalizing state with
  | nil => exact Iff.rfl
  | cons action _ ih =>
    have hf := hs state action hi hl.1
    constructor
    · intro hg
      exact ⟨hf.mp hg.1, (ih (hinv _ _ hi hg.1) hl.2).mp hg.2⟩
    · intro hc
      have hg := hf.mpr hc.1
      exact ⟨hg, (ih (hinv _ _ hi hg) hl.2).mpr hc.2⟩

lemma along_iff_along (ha : ∀ state action, inv state → (good state action ↔ cond state action))
    (hi : inv state) : Along step good state actions ↔ Along step cond state actions :=
  along_iff_along_of_lawful step hinv (fun _ _ hs _ => ha _ _ hs)
    hi (along_of_forall _ (fun _ _ => trivial) state)

end

lemma trace_invariant (cond : σ → α → Prop) (inv : σ → Prop)
    (hs : ∀ state action, inv state → cond state action → inv (step state action))
    (hi : inv state) (hc : ∀ n, cond (trace step state actions n) (actions n)) :
    inv (trace step state actions n) := by
  induction n with
  | zero => exact hi
  | succ n ih => exact hs _ _ ih (hc n)

lemma run_history_invariant
    {inv : List β → σ → Prop} (hs : ∀ seen state action, inv seen state → cond state action →
      inv (seen ++ observe state action) (step state action)) (hi : inv seen state)
    (hc : Along step cond state actions) :
    inv (seen ++ observed step observe state actions) (run step state actions) := by
  induction actions generalizing seen state with
  | nil => simpa [observed] using hi
  | cons action _ ih =>
    have hn := ih (hs seen state action hi hc.1) hc.2
    simpa only [observed, run_cons, append_assoc] using hn

lemma run_observed_invariant (cond : σ → α → Prop) (observe : σ → α → List β)
    (inv : List β → σ → Prop) (hs : ∀ seen state action, inv seen state → cond state action →
      inv (seen ++ observe state action) (step state action)) (hi : inv [] state)
    (hc : Along step cond state actions) :
    inv (observed step observe state actions) (run step state actions) := by
  have hr : inv ([] ++ observed step observe state actions) (run step state actions) :=
    run_history_invariant step hs hi hc
  rwa [nil_append] at hr

lemma observed_map {image : β → γ} :
    observed step (fun state action => (observe state action).map image) state actions =
      (observed step observe state actions).map image := by
  induction actions generalizing state with
  | nil => rfl
  | cons _ _ ih => simp only [observed, ih, map_append]

-- A queue along a run: what was in it and what entered is what left, followed by what is in
-- it at the end.
lemma run_balance (cond : σ → α → Prop) (queue : σ → List β) (entered : σ → α → List β)
    (hs : ∀ state action, cond state action →
      queue state ++ entered state action = left state action ++ queue (step state action))
    (hc : Along step cond state actions) :
    queue state ++ observed step entered state actions =
      observed step left state actions ++ queue (run step state actions) := by
  induction actions generalizing state with
  | nil => simp [observed]
  | cons action _ ih =>
    simp only [observed, run_cons]
    rw [← append_assoc, hs state action hc.1, append_assoc, ih hc.2, append_assoc]

-- Two lists of actions that agree up to silent ones.
inductive Matching (same : α → α → Prop) (silent : α → Prop) : List α → List α → Prop where
  | Nil : Matching same silent [] []
  | Both {action other : α} {rest others : List α} (hsame : same action other)
      (hrest : Matching same silent rest others) :
      Matching same silent (action :: rest) (other :: others)
  | Left {action : α} {rest others : List α} (hsilent : silent action)
      (hrest : Matching same silent rest others) : Matching same silent (action :: rest) others
  | Right {other : α} {rest others : List α} (hsilent : silent other)
      (hrest : Matching same silent rest others) : Matching same silent rest (other :: others)

-- Two runs of such actions from related states show the same, if matching actions do and silent
-- ones show nothing, and all of them keep the states related.
lemma Matching.observed {silent good : α → Prop} {related : σ → σ → Prop} {observe : σ → α → List β}
    (hb : ∀ state other action action', related state other → good action →
      same action action' → List.Forall₂ alike (observe state action) (observe other action') ∧
        related (step state action) (step other action'))
    (hl : ∀ state other action, related state other → good action → silent action →
      observe state action = [] ∧ related (step state action) other)
    (hi : ∀ state other action, related state other → silent action →
      observe other action = [] ∧ related state (step other action))
    (ha : Matching same silent actions others) (hr : related state other)
    (hg : ∀ action ∈ actions, good action) :
    List.Forall₂ alike (observed step observe state actions)
      (observed step observe other others) := by
  induction ha generalizing state other with
  | Nil => exact .nil
  | @Both action action' _ _ hc _ ih =>
    obtain ⟨hs, hn⟩ := hb state other action action' hr (hg _ (by simp)) hc
    exact rel_append hs (ih hn fun later hm => hg _ (by simp [hm]))
  | @Left action _ _ he _ ih =>
    obtain ⟨hs, hn⟩ := hl state other action hr (hg action (by simp)) he
    rw [Run.observed, hs]
    exact ih hn fun later hm => hg _ (by simp [hm])
  | @Right action _ _ he _ ih =>
    obtain ⟨hs, hn⟩ := hi state other action hr he
    rw [Run.observed, hs]
    exact ih hn hg

lemma foldlM_map {fallible : σ → α → Except ε σ} (image : τ → α → Except ε τ)
    (hs : ∀ state action, (fallible state action).map see = image (see state) action)
    (state : σ) {actions : List α} :
    (actions.foldlM fallible state).map see = actions.foldlM image (see state) := by
  induction actions generalizing state with
  | nil => rfl
  | cons action _ ih =>
    rw [foldlM_cons, foldlM_cons, ← hs]
    cases fallible state action with
    | error => rfl
    | ok next => exact ih next

end Run
