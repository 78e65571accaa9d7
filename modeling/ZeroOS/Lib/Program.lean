import Mathlib.Tactic.Common

/-!
Programs that make calls and go on with the answers, run by whoever answers the calls.
-/

inductive Program (κ β α : Type) where
  | done (value : α)
  | call (request : κ) (next : β → Program κ β α)

namespace Program

variable {σ κ β α : Type} (answer : σ → κ → σ × β)

def run (state : σ) : Program κ β α → σ × α
  | .done value => (state, value)
  | .call request next => run (answer state request).1 (next (answer state request).2)

-- What every way through the program ends with, whatever the answers are.
def Ends (good : α → Prop) : Program κ β α → Prop
  | .done value => good value
  | .call _ next => ∀ reply, Ends good (next reply)

lemma Ends.run (he : Ends good program) (state : σ) : good (run answer state program).2 := by
  induction program generalizing state with
  | done => exact he
  | call _ _ ih => exact ih _ (he _) _

end Program
