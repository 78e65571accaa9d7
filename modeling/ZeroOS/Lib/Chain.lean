import Mathlib.Tactic.Common

/-!
Hash chains: every entry names the id of the one before it, and its own id is
its hash.
-/

namespace HashChain

variable {γ η : Type} {prev id hash : γ → η} {first last : η} {entries : List γ}

def Linked (prev id hash : γ → η) : η → List γ → η → Prop
  | first, [], last => first = last
  | first, entry :: rest, last =>
    prev entry = first ∧ hash entry = id entry ∧ Linked prev id hash (id entry) rest last

lemma Linked.append (hf : Linked prev id hash first entries middle)
    (hb : Linked prev id hash middle more last) :
    Linked prev id hash first (entries ++ more) last := by
  induction entries generalizing first with
  | nil =>
    cases hf
    exact hb
  | cons entry rest ih => exact ⟨hf.1, hf.2.1, ih hf.2.2⟩

lemma Linked.first_unique (hn : entries ≠ []) (hc : Linked prev id hash first entries last)
    (ho : Linked prev id hash other entries last) : first = other := by
  cases entries with
  | nil => exact absurd rfl hn
  | cons entry rest => exact hc.1.symm.trans ho.1

lemma Linked.isChain (hc : Linked prev id hash first entries last) :
    entries.IsChain fun entry next => prev next = id entry := by
  induction entries generalizing first with
  | nil => exact .nil
  | cons entry rest ih =>
    cases rest with
    | nil => exact .singleton _
    | cons next rest => exact .cons_cons hc.2.2.1 (ih hc.2.2)

lemma Linked.getLast (hc : Linked prev id hash first entries last) (hn : entries ≠ []) :
    entries.getLast?.map id = some last := by
  induction entries generalizing first with
  | nil => exact absurd rfl hn
  | cons entry rest ih =>
    cases rest with
    | nil => exact congrArg some hc.2.2
    | cons next rest =>
      exact ih hc.2.2 (List.cons_ne_nil _ _)

end HashChain
