import ZeroOS.Lib.Custody
import ZeroOS.Lib.Map

/-!
A docket: requests in the order in which they arrive, each turned away at once or admitted.
-/

structure Docket (κ μ ρ : Type) where
  requests : List μ
  admitted : List Nat
  custody : Custody κ Nat ρ

namespace Docket

open List

variable {κ μ ρ : Type} [DecidableEq κ]

-- The number that the next request will have.
def fresh (docket : Docket κ μ ρ) : Nat := docket.requests.length

def turnAway (docket : Docket κ μ ρ) (request : μ) (receipts : List ρ) : Docket κ μ ρ where
  requests := docket.requests ++ [request]
  admitted := docket.admitted
  custody :=
    ⟨docket.custody.owner, docket.custody.receipts ++ receipts.map fun r => (docket.fresh, r)⟩

def accept (docket : Docket κ μ ρ) (request : μ) (key : κ) : Docket κ μ ρ where
  requests := docket.requests ++ [request]
  admitted := docket.admitted ++ [docket.fresh]
  custody := docket.custody.issue key docket.fresh

def settle (docket : Docket κ μ ρ) (key : κ) (token : Nat) (receipt : ρ) : Docket κ μ ρ :=
  { docket with custody := docket.custody.settle key token receipt }

-- What is turned away has the receipts that belong to it, and what is admitted is held by one
-- key or has one good receipt.
structure Orderly (away : μ → List ρ → Prop) (good : Nat → μ → ρ → Prop)
    (docket : Docket κ μ ρ) : Prop where
  owners : ∀ key token, docket.custody.owner key = some token → token ∈ docket.admitted
  known : ∀ token ∈ docket.admitted, token < docket.requests.length
  named : ∀ receipt ∈ docket.custody.receipts, receipt.1 < docket.requests.length
  standing : ∀ token ∈ docket.admitted, ∃ request, docket.requests[token]? = some request ∧
    docket.custody.Standing (good token request) token
  turned : ∀ token request, docket.requests[token]? = some request → token ∉ docket.admitted →
    away request (docket.custody.receiptsOf token)

variable {away : μ → List ρ → Prop} {good : Nat → μ → ρ → Prop} {docket : Docket κ μ ρ}

section

omit [DecidableEq κ]

lemma receiptsOf_append_map (custody : Custody κ Nat ρ) (token other : Nat) (receipts : List ρ) :
    Custody.receiptsOf ⟨custody.owner, custody.receipts ++ receipts.map fun r => (other, r)⟩ token =
      custody.receiptsOf token ++ if other = token then receipts else [] := by
  by_cases he : other = token
  · simp [Custody.receiptsOf, he, filter_map, Function.comp_def]
  · simp [Custody.receiptsOf, he]

lemma getElem_append {requests : List μ} {token : Nat} (hr : requests[token]? = some req) :
    (requests ++ later)[token]? = some req := by
  obtain ⟨hl, _⟩ := List.getElem?_eq_some_iff.mp hr
  rwa [getElem?_append_left hl]

lemma getElem_append_cases {requests : List μ} (hr : (requests ++ [last])[token]? = some req) :
    (token < requests.length ∧ requests[token]? = some req) ∨
      token = requests.length ∧ req = last := by
  obtain hl | hg := Nat.lt_or_ge token requests.length
  · exact .inl ⟨hl, by rwa [getElem?_append_left hl] at hr⟩
  · rw [getElem?_append_right hg, getElem?_singleton] at hr
    split_ifs at hr with hz
    exact .inr ⟨Nat.le_antisymm (Nat.sub_eq_zero_iff_le.mp hz) hg, (Option.some.inj hr).symm⟩

section

variable (hord : Orderly away good docket)

include hord

lemma Orderly.not_admitted : docket.fresh ∉ docket.admitted :=
  fun hm => Nat.lt_irrefl _ (hord.known _ hm)

lemma Orderly.no_receipts : docket.custody.receiptsOf docket.fresh = [] :=
  Custody.receiptsOf_eq_nil fun _ hm => Nat.ne_of_lt (hord.named _ hm)

lemma Orderly.mono (hi : ∀ token req receipt, good token req receipt → better token req receipt) :
    Orderly away better docket := by
  refine ⟨hord.owners, hord.known, hord.named, ?_, hord.turned⟩
  intro token hm
  obtain ⟨req, hr, hs⟩ := hord.standing token hm
  exact ⟨req, hr, hs.mono (hi _ _)⟩

end

lemma orderly_empty : Orderly away good (⟨[], [], ⟨fun _ => none, []⟩⟩ : Docket κ μ ρ) := by
  refine ⟨?_, ?_, ?_, ?_, ?_⟩ <;> simp

lemma Orderly.turnAway (hord : Orderly away good docket) (ha : away req receipts) :
    Orderly away good (docket.turnAway req receipts) := by
  have ho : ∀ token, token ≠ docket.fresh →
      (docket.turnAway req receipts).custody.receiptsOf token =
        docket.custody.receiptsOf token := by
    intro token he
    refine (receiptsOf_append_map ..).trans ?_
    rw [if_neg (Ne.symm he), append_nil]
  have hlo : ∀ {token}, token < docket.requests.length →
      token < (docket.turnAway req receipts).requests.length := by
    intro token hl
    simp only [Docket.turnAway, length_append]
    exact Nat.lt_add_right _ hl
  refine ⟨hord.owners, ?_, ?_, ?_, ?_⟩
  · exact fun token hm => hlo (hord.known _ hm)
  · intro receipt hm
    obtain hd | hn := mem_append.mp hm
    · exact hlo (hord.named _ hd)
    · obtain ⟨r, _, rfl⟩ := mem_map.mp hn
      simp [Docket.turnAway, fresh]
  · intro token hm
    obtain ⟨asked, has, hs⟩ := hord.standing token hm
    refine ⟨asked, getElem_append has, hs.congr (fun _ => Iff.rfl) (ho _ ?_)⟩
    exact Nat.ne_of_lt (hord.known _ hm)
  · intro token asked has hno
    obtain ⟨hl, hd⟩ | ⟨rfl, rfl⟩ := getElem_append_cases has
    · rw [ho token (Nat.ne_of_lt hl)]
      exact hord.turned _ _ hd hno
    · have hn := receiptsOf_append_map docket.custody docket.fresh docket.fresh receipts
      rw [if_pos rfl, hord.no_receipts] at hn
      exact (congrArg (away asked) hn).mpr ha

end

lemma Orderly.accept (hord : Orderly away good docket) (req : μ)
    (hk : docket.custody.owner key = none) : Orderly away good (docket.accept req key) := by
  have hf : ∀ place, docket.custody.owner place ≠ some docket.fresh :=
    fun place ho => hord.not_admitted (hord.owners _ _ ho)
  have hmm : ∀ {token}, token ∈ (docket.accept req key).admitted ↔
      token ∈ docket.admitted ∨ token = docket.fresh := by
    intro token
    simp only [Docket.accept, mem_append, mem_singleton]
  refine ⟨?_, ?_, ?_, ?_, ?_⟩
  · intro place token ho
    rw [Docket.accept, Custody.issue_owner] at ho
    rw [hmm]
    split_ifs at ho
    · exact .inr (Option.some.inj ho).symm
    · exact .inl (hord.owners _ _ ho)
  · intro token hm
    simp only [Docket.accept, length_append]
    obtain hl | rfl := hmm.mp hm
    · exact Nat.lt_succ_of_lt (hord.known _ hl)
    · exact Nat.lt_succ_self _
  · intro receipt hm
    simp only [Docket.accept, length_append]
    exact Nat.lt_add_right _ (hord.named _ hm)
  · intro token hm
    obtain hl | rfl := hmm.mp hm
    · obtain ⟨asked, has, hs⟩ := hord.standing token hl
      have he : docket.fresh ≠ token := Nat.ne_of_gt (hord.known _ hl)
      exact ⟨asked, getElem_append has, hs.issue_other he hk⟩
    · refine ⟨req, ?_, Custody.standing_issue hf hord.no_receipts⟩
      simp [Docket.accept, fresh]
  · intro token asked has hn
    obtain ⟨_, hl⟩ | ⟨rfl, _⟩ := getElem_append_cases has
    · exact hord.turned _ _ hl fun hm => hn (hmm.mpr (.inl hm))
    · exact absurd (hmm.mpr (.inr rfl)) hn

lemma Orderly.settle (hord : Orderly away good docket)
    (ho : docket.custody.owner key = some token) (hr : docket.requests[token]? = some req)
    (hg : good token req receipt) : Orderly away good (docket.settle key token receipt) := by
  have hmm := hord.owners key token ho
  refine ⟨?_, hord.known, ?_, ?_, ?_⟩
  · intro place other ht
    rw [Docket.settle, Custody.settle_owner] at ht
    split_ifs at ht
    exact hord.owners _ _ ht
  · intro given hm
    obtain hl | hw := mem_append.mp hm
    · exact hord.named _ hl
    · rw [mem_singleton.mp hw]
      exact hord.known _ hmm
  · intro other hm
    obtain ⟨asked, has, hs⟩ := hord.standing other hm
    refine ⟨asked, has, ?_⟩
    by_cases he : token = other
    · subst he
      rw [hr] at has
      cases has
      exact hs.settle_self ho hg
    · exact hs.settle_other he ho
  · intro other asked has hn
    have hne : token ≠ other := by
      rintro rfl
      exact hn hmm
    have ha : (docket.settle key token receipt).custody.receiptsOf other =
        docket.custody.receiptsOf other :=
      Custody.receiptsOf_append_ne hne
    rw [ha]
    exact hord.turned _ _ has hn

end Docket

namespace BTreeMap

variable {κ ν τ : Type} [Ord κ] [Std.TransOrd κ]

def holder (token : ν → τ) (m : BTreeMap κ ν) (key : κ) : Option τ := m[key]?.map token

lemma holder_of_get {key : κ} (hg : m[key]? = some value) :
    holder token m key = some (token value) := by
  rw [holder, hg, Option.map_some]

lemma holder_of_not_mem {key : κ} (hn : key ∉ m) : holder token m key = none := by
  rw [holder, not_mem_iff.mp hn, Option.map_none]

variable [Std.LawfulEqOrd κ] [DecidableEq κ]

lemma holder_insert {m : BTreeMap κ ν} :
    holder token (m.insert key value) =
      Function.update (holder token m) key (some (token value)) := by
  funext other
  rw [holder, get_insert, Function.update_apply]
  by_cases he : key = other
  · rw [if_pos he, if_pos he.symm, Option.map_some]
  · rw [if_neg he, if_neg (Ne.symm he), holder]

lemma holder_erase {m : BTreeMap κ ν} :
    holder token (m.erase key) = Function.update (holder token m) key none := by
  funext other
  rw [holder, get_erase, Function.update_apply]
  by_cases he : key = other
  · rw [if_pos he, if_pos he.symm, Option.map_none]
  · rw [if_neg he, if_neg (Ne.symm he), holder]

lemma holder_replace {key : κ} (hg : m[key]? = some old)
    (hs : token new = token old) : holder token (m.insert key new) = holder token m := by
  rw [holder_insert, hs]
  exact Function.update_eq_self_iff.mpr (holder_of_get hg).symm

-- Two tables with the same keys, whose entries fit together.
def Paired (fits : ν → τ → Prop) (m : BTreeMap κ ν) (n : BTreeMap κ τ) : Prop :=
  ∀ key : κ, (m[key]? = none ∧ n[key]? = none) ∨
    ∃ left right, m[key]? = some left ∧ n[key]? = some right ∧ fits left right

section

omit [DecidableEq κ] [Std.LawfulEqOrd κ]

variable {fits : ν → τ → Prop} {m : BTreeMap κ ν} {n : BTreeMap κ τ}

lemma paired_empty : Paired fits (∅ : BTreeMap κ ν) (∅ : BTreeMap κ τ) :=
  fun _ => .inl ⟨by simp, by simp⟩

lemma Paired.left {key : κ} (hp : Paired fits m n) (hg : n[key]? = some right) :
    ∃ left, m[key]? = some left ∧ fits left right := by
  obtain ⟨_, hn⟩ | ⟨left, _, hl, hr, hf⟩ := hp key
  · rw [hn] at hg
    cases hg
  · rw [hg] at hr
    cases hr
    exact ⟨left, hl, hf⟩

lemma Paired.mono (hp : Paired fits m n)
    (hi : ∀ left right, fits left right → better left right) : Paired better m n := by
  intro key
  obtain hn | ⟨left, right, hl, hr, hf⟩ := hp key
  · exact .inl hn
  · exact .inr ⟨left, right, hl, hr, hi left right hf⟩

end

section

variable {fits : ν → τ → Prop} {m : BTreeMap κ ν} {n : BTreeMap κ τ}

lemma Paired.insert (hp : Paired fits m n) (key : κ) {left : ν} (hf : fits left right) :
    Paired fits (m.insert key left) (n.insert key right) := by
  intro other
  rw [get_insert, get_insert]
  by_cases he : key = other
  · rw [if_pos he, if_pos he]
    exact .inr ⟨left, right, rfl, rfl, hf⟩
  · rw [if_neg he, if_neg he]
    exact hp _

lemma Paired.erase (hp : Paired fits m n) (key : κ) : Paired fits (m.erase key) (n.erase key) := by
  intro other
  rw [get_erase, get_erase]
  by_cases he : key = other
  · rw [if_pos he, if_pos he]
    exact .inl ⟨rfl, rfl⟩
  · rw [if_neg he, if_neg he]
    exact hp _

lemma Paired.replace (hp : Paired fits m n) (ho : n[key]? = some old)
    (hf : ∀ left, fits left old → fits left new) : Paired fits m (n.insert key new) := by
  intro other
  rw [get_insert]
  by_cases he : key = other
  · subst he
    rw [if_pos rfl]
    obtain ⟨left, hl, hi⟩ := hp.left ho
    exact .inr ⟨left, new, hl, rfl, hf left hi⟩
  · rw [if_neg he]
    exact hp _

end

end BTreeMap
