import Mathlib.Data.List.Induction
import ZeroOS.Axiom.Capability
import ZeroOS.Lib.Run

/-!
Sequences of insertions into a capability space and removals from it.
-/

namespace ZeroOS

open UInt32 Run

inductive SpaceOp where
  | Insert (cap : Capability)
  | Remove (slot : CapSlot)

def SpaceOp.isInsert : SpaceOp → Bool
  | .Insert _ => true
  | .Remove _ => false

namespace CapabilitySpace

def apply (cspace : CapabilitySpace) : SpaceOp → CapabilitySpace
  | .Insert cap => (cspace.insert cap).2
  | .Remove slot => (cspace.remove slot).2

def Keeps (cspace : CapabilitySpace) (op : SpaceOp) : Prop :=
  (∀ cap, op = .Insert cap → cspace.get (cspace.insert cap).1 = none) ∧
    ∀ slot cap, cspace.get slot = some cap → op ≠ .Remove slot →
      (cspace.apply op).get slot = some cap

def inserts (ops : List SpaceOp) : Nat := ops.countP SpaceOp.isInsert

-- Whatever is inserted has been removed again by the time its slot comes round.
def Vacated (ops : List SpaceOp) : Prop :=
  ∀ first cap middle next rest, ops = first ++ .Insert cap :: middle ++ .Insert next :: rest →
    inserts middle + 1 = 4294967296 → .Remove (UInt32.ofNat (inserts first)) ∈ middle

lemma inserts_append :
    inserts (first ++ second) = inserts first + inserts second := List.countP_append

lemma inserts_cons : inserts (.Insert cap :: ops) = inserts ops + 1 := List.countP_cons_of_pos rfl

lemma exists_insert (hc : count < inserts ops) :
    ∃ before cap after, ops = before ++ .Insert cap :: after ∧ inserts before = count := by
  induction ops generalizing count with
  | nil => exact absurd hc (Nat.not_lt_zero _)
  | cons op ops ih =>
    cases op with
    | Insert cap =>
      cases count with
      | zero => exact ⟨[], cap, ops, rfl, rfl⟩
      | succ count =>
        rw [inserts_cons] at hc
        obtain ⟨before, found, after, rfl, hb⟩ := ih (Nat.lt_of_succ_lt_succ hc)
        exact ⟨.Insert cap :: before, found, after, rfl, by rw [inserts_cons, hb]⟩
    | Remove slot =>
      obtain ⟨before, found, after, rfl, hb⟩ := ih hc
      exact ⟨.Remove slot :: before, found, after, rfl, hb⟩

variable (cspace : CapabilitySpace) (ops : List SpaceOp) (slot : CapSlot)

lemma nextSlot_run : (run apply new ops).nextSlot = ofNat (inserts ops) := by
  induction ops using List.reverseRecOn with
  | nil => rfl
  | append_singleton ops op ih =>
    rw [run_append, inserts_append]
    cases op with
    | Insert cap =>
      rw [ofNat_add, ← ih]
      rfl
    | Remove => exact ih

lemma get_run_isSome_iff :
    ((run apply new ops).get slot).isSome ↔
      ∃ first cap middle, ops = first ++ .Insert cap :: middle ∧
        ofNat (inserts first) = slot ∧ .Remove slot ∉ middle := by
  induction ops using List.reverseRecOn with
  | nil => simp [new, get]
  | append_singleton ops op ih =>
    rw [run_append]
    cases op with
    | Insert cap =>
      have hg : (run apply (run apply new ops) [.Insert cap]).get slot =
          if ofNat (inserts ops) = slot then some cap
          else (run apply new ops).get slot := by
        rw [← nextSlot_run]
        exact BTreeMap.get_insert ..
      rw [hg]
      constructor
      · intro ho
        split at ho
        · next hs => exact ⟨ops, cap, [], rfl, hs, List.not_mem_nil⟩
        · obtain ⟨first, found, middle, rfl, hs, hk⟩ := ih.mp ho
          exact ⟨first, found, middle ++ [.Insert cap], by simp, hs, by simpa using hk⟩
      · rintro ⟨first, found, middle, he, hs, hk⟩
        split
        · rfl
        · next ht =>
          rcases List.eq_nil_or_concat' middle with rfl | ⟨init, last, rfl⟩
          · obtain ⟨rfl, -⟩ := List.append_inj' he rfl
            exact absurd hs ht
          · rw [← List.cons_append, ← List.append_assoc] at he
            obtain ⟨rfl, -⟩ := List.append_inj' he rfl
            exact ih.mpr ⟨first, found, init, rfl, hs, fun hm => hk (by simp [hm])⟩
    | Remove removed =>
      have hg : (run apply (run apply new ops) [.Remove removed]).get slot =
          if removed = slot then none else (run apply new ops).get slot :=
        BTreeMap.get_erase ..
      rw [hg]
      constructor
      · intro ho
        split at ho
        · cases ho
        · next ht =>
          obtain ⟨first, found, middle, rfl, hs, hk⟩ := ih.mp ho
          refine ⟨first, found, middle ++ [.Remove removed], by simp, hs, ?_⟩
          simpa [hk] using fun h => ht h.symm
      · rintro ⟨first, found, middle, he, hs, hk⟩
        rcases List.eq_nil_or_concat' middle with rfl | ⟨init, last, rfl⟩
        · obtain ⟨-, hl⟩ := List.append_inj' he rfl
          cases hl
        · rw [← List.cons_append, ← List.append_assoc] at he
          obtain ⟨rfl, hl⟩ := List.append_inj' he rfl
          cases hl
          rw [if_neg (fun hr => hk (by simp [hr]))]
          exact ih.mpr ⟨first, found, init, rfl, hs, fun hm => hk (by simp [hm])⟩

lemma keeps_insert_iff : cspace.Keeps (.Insert cap) ↔ cspace.get cspace.nextSlot = none := by
  constructor
  · exact fun hk => hk.1 cap rfl
  · refine fun hf => ⟨fun _ _ => hf, fun slot held hg _ => ?_⟩
    have hn : cspace.nextSlot ≠ slot := by
      rintro rfl
      rw [hf] at hg
      cases hg
    exact (BTreeMap.get_insert_ne hn).trans hg

lemma keeps_remove : cspace.Keeps (.Remove slot) := by
  refine ⟨nofun, fun other held hg ho => ?_⟩
  have hn : slot ≠ other := fun he => ho (he ▸ rfl)
  exact (BTreeMap.get_erase_ne _ hn).trans hg

-- Nothing is overwritten exactly if every slot is vacated before it comes round.
theorem slots_stable_iff : Run.Along apply Keeps new ops ↔ Vacated ops := by
  constructor
  · rintro halong first cap middle next rest rfl hr
    rw [along_append] at halong
    have hf := (keeps_insert_iff _).mp halong.2.1
    have hs : ofNat (inserts (first ++ .Insert cap :: middle)) =
        ofNat (inserts first) := by
      rw [inserts_append, inserts_cons, hr, ofNat_add]
      exact UInt32.add_zero _
    rw [nextSlot_run, hs] at hf
    by_contra hk
    have ho := (get_run_isSome_iff (first ++ .Insert cap :: middle) _).mpr
      ⟨first, cap, middle, rfl, rfl, hk⟩
    rw [hf] at ho
    cases ho
  · intro hv
    refine along_of_split _ fun before op after hop => ?_
    cases op with
    | Remove slot => exact keeps_remove _ slot
    | Insert next =>
      rw [keeps_insert_iff, ← Option.not_isSome_iff_eq_none, nextSlot_run, get_run_isSome_iff]
      rintro ⟨first, cap, middle, rfl, hs, hk⟩
      have hr : 4294967296 ≤ inserts (middle ++ [.Insert next]) := by
        have hm := congrArg toNat hs
        rw [inserts_append, inserts_cons, toNat_ofNat', toNat_ofNat'] at hm
        rw [inserts_append, inserts_cons]
        omega
      -- The first insertion that comes round to the slot is this one or an earlier one.
      obtain ⟨upTo, found, rest, hp, hc⟩ :=
        exists_insert (Nat.lt_of_lt_of_le (show 4294967295 < 4294967296 by decide) hr)
      have he := hv first cap upTo found (rest ++ after) (by
        rw [hop, List.append_assoc, List.append_assoc, List.cons_append, List.cons_append,
          ← List.singleton_append (l := after), ← List.append_assoc middle, hp]
        simp) (by rw [hc])
      have hi : .Remove (ofNat (inserts first)) ∈ middle ++ [.Insert next] :=
        hp ▸ List.mem_append_left _ he
      rw [hs] at hi
      simp [hk] at hi

lemma overwritten_of_wrap (hw : ofNat (count + 1) = 0) :
    ¬ Run.Along apply Keeps new (.replicate (count + 1) (.Insert cap) ++ [.Insert cap]) := by
  intro ha
  rw [along_append] at ha
  have hf := (keeps_insert_iff _).mp ha.2.1
  have hc : inserts (.replicate (count + 1) (.Insert cap)) = count + 1 := by
    simp [inserts, List.countP_replicate, SpaceOp.isInsert]
  rw [nextSlot_run, hc, hw] at hf
  have hs := (get_run_isSome_iff (.replicate (count + 1) (.Insert cap)) 0).mpr
    ⟨[], cap, .replicate count (.Insert cap), rfl, rfl, fun hm => nomatch List.eq_of_mem_replicate hm⟩
  rw [hf] at hs
  cases hs

theorem first_slot_overwritten :
    let cap : Capability := ⟨1, .Endpoint, 1, Permissions.full, 0, 0⟩
    ¬ Run.Along apply Keeps new (.replicate 4294967296 (.Insert cap) ++ [.Insert cap]) :=
  overwritten_of_wrap (by decide)

end CapabilitySpace

end ZeroOS
