import Mathlib.Tactic.Common

/-!
Custody of tokens.
-/

structure Custody (κ τ ρ : Type) where
  owner : κ → Option τ
  receipts : List (τ × ρ)

namespace Custody

variable {κ τ ρ : Type} [DecidableEq κ] [DecidableEq τ]

section

variable (custody : Custody κ τ ρ) (key : κ) (token : τ)

def receiptsOf : List ρ :=
  (custody.receipts.filter (·.1 = token)).map Prod.snd

def issue : Custody κ τ ρ :=
  { custody with owner := Function.update custody.owner key (some token) }

def pass (next : κ) (token : τ) : Custody κ τ ρ :=
  { custody with
    owner := Function.update (Function.update custody.owner key none) next (some token) }

def settle (receipt : ρ) : Custody κ τ ρ where
  owner := Function.update custody.owner key none
  receipts := custody.receipts ++ [(token, receipt)]

-- A receipt without a key, for what was never given out.
def note (receipt : ρ) : Custody κ τ ρ :=
  { custody with receipts := custody.receipts ++ [(token, receipt)] }

end

inductive Standing (custody : Custody κ τ ρ) (good : ρ → Prop) (token : τ) : Prop where
  | held {key : κ} (howner : custody.owner key = some token)
      (honly : ∀ other, custody.owner other = some token → other = key)
      (hnone : custody.receiptsOf token = [])
  | settled {receipt : ρ} (hgood : good receipt) (hfree : ∀ key, custody.owner key ≠ some token)
      (hone : custody.receiptsOf token = [receipt])

variable {custody : Custody κ τ ρ} {good : ρ → Prop} {token other : τ} {key next : κ}
  {receipt : ρ}

section

omit [DecidableEq τ]

variable (custody : Custody κ τ ρ) (key place : κ) (token : τ)

lemma issue_owner :
    (custody.issue key token).owner place =
      if place = key then some token else custody.owner place :=
  Function.update_apply ..

lemma pass_owner (next place : κ) (token : τ) :
    (custody.pass key next token).owner place =
      if place = next then some token else if place = key then none else custody.owner place := by
  simp only [pass, Function.update_apply]

lemma settle_owner :
    (custody.settle key token receipt).owner place =
      if place = key then none else custody.owner place :=
  Function.update_apply ..

end

section

omit [DecidableEq κ]

lemma receiptsOf_append_self (custody : Custody κ τ ρ) (token : τ) (receipt : ρ) :
    (custody.note token receipt).receiptsOf token = custody.receiptsOf token ++ [receipt] := by
  simp [receiptsOf, note]

lemma receiptsOf_append_ne (hn : other ≠ token) :
    (custody.note other receipt).receiptsOf token = custody.receiptsOf token := by
  simp [receiptsOf, note, hn]

lemma receiptsOf_eq_nil (hn : ∀ r ∈ custody.receipts, r.1 ≠ token) :
    custody.receiptsOf token = [] := by
  rw [receiptsOf, List.map_eq_nil_iff, List.filter_eq_nil_iff]
  intro r hr
  simpa using hn r hr

section

variable (hstand : Standing custody good token)

include hstand

lemma Standing.congr
    (hs : ∀ place, changed.owner place = some token ↔ custody.owner place = some token)
    (hr : changed.receiptsOf token = custody.receiptsOf token) : Standing changed good token := by
  cases hstand with
  | held ho hl hn =>
    exact .held ((hs _).mpr ho) (fun place h => hl _ ((hs _).mp h)) (hr.trans hn)
  | settled hg hf he =>
    exact .settled hg (fun place h => hf _ ((hs _).mp h)) (hr.trans he)

lemma Standing.mono (hi : ∀ receipt, good receipt → better receipt) :
    Standing custody better token := by
  cases hstand with
  | held ho hl hn => exact .held ho hl hn
  | settled hg hf he => exact .settled (hi _ hg) hf he

lemma Standing.of_owner (ho : custody.owner key = some token) :
    (∀ place, custody.owner place = some token → place = key) ∧ custody.receiptsOf token = [] := by
  cases hstand with
  | held _ hl hn =>
    refine ⟨fun place hp => ?_, hn⟩
    rw [hl place hp, hl key ho]
  | settled _ hf => exact absurd ho (hf key)

lemma Standing.of_receipt (hs : custody.receiptsOf token ≠ []) :
    ∃ receipt, good receipt ∧ custody.receiptsOf token = [receipt] := by
  cases hstand with
  | held _ _ hn => exact absurd hn hs
  | settled hg _ ho => exact ⟨_, hg, ho⟩

lemma Standing.note_other (hn : other ≠ token) : Standing (custody.note other receipt) good token :=
  hstand.congr (fun _ => Iff.rfl) (receiptsOf_append_ne hn)

end

end

lemma standing_issue (hf : ∀ place, custody.owner place ≠ some token)
    (ho : custody.receiptsOf token = []) : Standing (custody.issue key token) good token := by
  refine .held ((custody.issue_owner ..).trans (if_pos rfl)) ?_ ho
  intro place hp
  rw [issue_owner] at hp
  by_contra hn
  rw [if_neg hn] at hp
  exact hf _ hp

section

variable (hstand : Standing custody good token)

include hstand

lemma Standing.issue_other (hn : other ≠ token) (hk : custody.owner key = none) :
    Standing (custody.issue key other) good token := by
  refine hstand.congr (fun place => ?_) rfl
  rw [issue_owner]
  by_cases he : place = key
  · simp [he, hk, hn]
  · rw [if_neg he]

lemma Standing.pass_self (ho : custody.owner key = some token) :
    Standing (custody.pass key next token) good token := by
  obtain ⟨hl, ha⟩ := hstand.of_owner ho
  refine .held ((custody.pass_owner key next next token).trans (if_pos rfl)) ?_ ha
  intro place hp
  rw [pass_owner] at hp
  by_contra hn
  rw [if_neg hn] at hp
  by_cases he : place = key
  · simp [he] at hp
  · rw [if_neg he] at hp
    exact he (hl _ hp)

lemma Standing.pass_other (hne : other ≠ token) (ho : custody.owner key = some other)
    (hx : custody.owner next = none) : Standing (custody.pass key next other) good token := by
  refine hstand.congr (fun place => ?_) rfl
  rw [pass_owner]
  by_cases hn : place = next
  · simp [hn, hx, hne]
  · by_cases he : place = key
    · simp [he, ho, hne]
    · rw [if_neg hn, if_neg he]

lemma Standing.settle_self (ho : custody.owner key = some token) (hg : good receipt) :
    Standing (custody.settle key token receipt) good token := by
  obtain ⟨hl, hn⟩ := hstand.of_owner ho
  have ha := receiptsOf_append_self custody token receipt
  rw [hn] at ha
  refine .settled hg (fun place hp => ?_) ha
  rw [settle_owner] at hp
  by_cases he : place = key
  · simp [he] at hp
  · rw [if_neg he] at hp
    exact he (hl _ hp)

lemma Standing.settle_other (hn : other ≠ token) (ho : custody.owner key = some other) :
    Standing (custody.settle key other receipt) good token := by
  refine hstand.congr (fun place => ?_) (receiptsOf_append_ne hn)
  rw [settle_owner]
  by_cases he : place = key
  · simp [he, ho, hn]
  · rw [if_neg he]

end

end Custody
