import ZeroOS.Core.Step.Lemmas
import ZeroOS.Lib.Counter
import ZeroOS.Lib.Run

/-!
Runs of the pure core: processes are registered and make calls.
-/

namespace ZeroOS.Core

open Run CapSpaces CapabilitySpace BTreeMap

inductive Action where
  | Register (name : String) (now : UInt64)
  | Call (pid : ProcessId) (syscall : Syscall) (now : UInt64)
deriving DecidableEq

namespace KernelState

variable (state : KernelState) (action : Action)

def act : Action → KernelState
  | .Register name now => (state.registerProcess name now).2
  | .Call pid syscall now => (state.step pid syscall now).state

def allocatedPids : List ProcessId :=
  if (state.act action).nextPid = state.nextPid then [] else [state.nextPid]

def allocatedEndpointIds : List EndpointId :=
  if (state.act action).nextEndpointId = state.nextEndpointId then [] else [state.nextEndpointId]

def allocatedCapIds : List UInt64 :=
  if (state.act action).nextCapId = state.nextCapId then [] else [state.nextCapId]

end KernelState

open StateView

inductive Transition (view : StateView) : Action → StateView → Prop where
  | Register (name : String) (now : UInt64) :
      Transition view (.Register name now) (view.addProcess name)
  | Call (pid : ProcessId) (syscall : Syscall) (now : UInt64) (result : SyscallResult)
      (view' : StateView) (hstep : Step pid now view syscall result view') :
      Transition view (.Call pid syscall now) view'

lemma KernelState.act_transition (state : KernelState) (action : Action) :
    Transition state.view action (state.act action).view := by
  cases action with
  | Register name now =>
    have htrans := @Transition.Register state.view name now
    rw [← view_registerProcess state] at htrans
    exact htrans
  | Call pid syscall now => exact .Call pid syscall now _ _ (state.step_step ..)

namespace StateView

variable {view view' : StateView}

-- The capability ids in the spaces.
def UsesCapId (view : StateView) (id : UInt64) : Prop :=
  ∃ pid slot cap, view.capSpaces.capAt pid slot = some cap ∧ cap.id = id

lemma usesCapId_putSpace {id : UInt64} (h : (view.putSpace pid cs).UsesCapId id) :
    (∃ slot cap, cs.get slot = some cap ∧ cap.id = id) ∨ view.UsesCapId id := by
  obtain ⟨other, slot, cap, hh, hi⟩ := h
  simp only [putSpace, capAt_insert] at hh
  split_ifs at hh
  · exact .inl ⟨slot, cap, hh, hi⟩
  · exact .inr ⟨other, slot, cap, hh, hi⟩

lemma usesCapId_of_insert {new : Capability} {id : UInt64} (hc : view.capSpaces[pid]? = some cs)
    (h : (view.putSpace pid (cs.insert new).2).UsesCapId id) : id = new.id ∨ view.UsesCapId id := by
  rcases usesCapId_putSpace h with ⟨slot, cap, hg, hi⟩ | ho
  · rw [get_insert] at hg
    split_ifs at hg
    · exact .inl (by rw [← hi, Option.some.inj hg])
    · exact .inr ⟨pid, slot, cap, (capAt_of_get hc _).trans hg, hi⟩
  · exact .inr ho

lemma usesCapId_of_remove {id : UInt64} (hc : view.capSpaces[pid]? = some cs)
    (h : (view.putSpace pid (cs.remove slot).2).UsesCapId id) : view.UsesCapId id := by
  rcases usesCapId_putSpace h with ⟨other, cap, hg, hi⟩ | ho
  · rw [get_remove] at hg
    split_ifs at hg
    exact ⟨pid, other, cap, (capAt_of_get hc _).trans hg, hi⟩
  · exact ho

lemma mem_putEndpoint (hg : view.endpoints[eid]? = some old) :
    key ∈ (view.putEndpoint eid ep).endpoints ↔ key ∈ view.endpoints :=
  mem_insert_of_get hg

end StateView

-- What a step can do to the tables and their counters.

section Step

variable {pid : ProcessId} {now : UInt64} {view view' : StateView} {syscall : Syscall}
  {result : SyscallResult}

section

variable (hstep : Step pid now view syscall result view')

include hstep

lemma Step.nextPid : view'.nextPid = view.nextPid := by
  cases hstep <;> rfl

lemma Step.mem_processes : other ∈ view'.processes ↔ other ∈ view.processes := by
  cases hstep with
  | Exit | Kill => exact mem_modify
  | _ => exact Iff.rfl

lemma Step.endpointIds :
    (view'.nextEndpointId = view.nextEndpointId ∧
      ∀ eid, eid ∈ view'.endpoints ↔ eid ∈ view.endpoints) ∨
    (view'.nextEndpointId = view.nextEndpointId + 1 ∧
      ∀ eid, eid ∈ view'.endpoints ↔ eid = view.nextEndpointId ∨ eid ∈ view.endpoints) := by
  have ha : ∀ eid, eid ∈ (view.addEndpoint pid).endpoints ↔
      eid = view.nextEndpointId ∨ eid ∈ view.endpoints :=
    fun eid => mem_insert eid
  cases hstep with
  | CreateEndpoint | CreateBare => exact .inr ⟨rfl, ha⟩
  | Send _ _ _ _ _ _ hh | Call _ _ _ _ _ _ hh | Receive _ _ _ _ hh | Empty _ _ _ hh
  | SendWithCaps _ _ _ _ _ _ _ _ _ _ hh =>
    exact .inl ⟨rfl, fun eid => mem_putEndpoint hh.found⟩
  | _ => exact .inl ⟨rfl, fun eid => Iff.rfl⟩

lemma Step.capIds :
    (view'.nextCapId = view.nextCapId ∧ ∀ id, view'.UsesCapId id → view.UsesCapId id) ∨
    (view'.nextCapId = view.nextCapId + 1 ∧
      ∀ id, view'.UsesCapId id → id = view.nextCapId ∨ view.UsesCapId id) := by
  cases hstep with
  | CreateEndpoint _ cs _ hc =>
    exact .inr ⟨rfl, fun id hu =>
      @usesCapId_of_insert (view.addEndpoint pid).burnCapId pid cs _ id hc hu⟩
  | CreateBare | GrantBare => exact .inr ⟨rfl, fun id hu => .inr hu⟩
  | CapGrant _ toPid _ _ cs _ _ _ hc =>
    exact .inr ⟨rfl, fun id hu =>
      @usesCapId_of_insert view.burnCapId toPid cs _ id hc hu⟩
  | CapDerive _ _ _ cs _ _ hc =>
    exact .inr ⟨rfl, fun id hu =>
      @usesCapId_of_insert view.burnCapId pid cs _ id hc hu⟩
  | CapRevoke _ _ _ hc | CapDelete _ _ _ hc =>
    exact .inl ⟨rfl, fun id hu => usesCapId_of_remove hc hu⟩
  | _ => exact .inl ⟨rfl, fun id hu => hu⟩

end

end Step

namespace Transition

variable {view view' : StateView} {action : Action}

section

variable (htrans : Transition view action view')

include htrans

lemma pids : (view'.nextPid = view.nextPid ∧ ∀ pid, pid ∈ view'.processes → pid ∈ view.processes) ∨
    (view'.nextPid = view.nextPid + 1 ∧
      ∀ pid, pid ∈ view'.processes → pid = view.nextPid ∨ pid ∈ view.processes) := by
  cases htrans with
  | Register => exact .inr ⟨rfl, fun pid hm => (mem_insert pid).mp hm⟩
  | Call _ _ _ _ _ hstep =>
    exact .inl ⟨hstep.nextPid, fun pid hm => (hstep.mem_processes).mp hm⟩

lemma endpointIds :
    (view'.nextEndpointId = view.nextEndpointId ∧
      ∀ eid, eid ∈ view'.endpoints → eid ∈ view.endpoints) ∨
    (view'.nextEndpointId = view.nextEndpointId + 1 ∧
      ∀ eid, eid ∈ view'.endpoints → eid = view.nextEndpointId ∨ eid ∈ view.endpoints) := by
  cases htrans with
  | Register => exact .inl ⟨rfl, fun _ hm => hm⟩
  | Call _ _ _ _ _ hstep =>
    exact hstep.endpointIds.imp (And.imp_right fun h eid => (h eid).mp)
      (And.imp_right fun h eid => (h eid).mp)

lemma capIds : (view'.nextCapId = view.nextCapId ∧ ∀ id, view'.UsesCapId id → view.UsesCapId id) ∨
    (view'.nextCapId = view.nextCapId + 1 ∧
      ∀ id, view'.UsesCapId id → id = view.nextCapId ∨ view.UsesCapId id) := by
  cases htrans with
  | Register =>
    refine .inl ⟨rfl, ?_⟩
    rintro id ⟨pid, slot, cap, hh, hi⟩
    simp only [addProcess, capAt_insert] at hh
    split_ifs at hh
    · simp [CapabilitySpace.new, CapabilitySpace.get] at hh
    · exact ⟨pid, slot, cap, hh, hi⟩
  | Call _ _ _ _ _ hstep => exact hstep.capIds

end

end Transition

namespace KernelState

lemma counted_run {next : KernelState → UInt64} (used : KernelState → UInt64 → Prop)
    (hw : Counter.Counted 0 (next new) (used new)) (hstep : ∀ state action,
      (next (act state action) = next state ∧ ∀ id, used (act state action) id → used state id) ∨
      (next (act state action) = next state + 1 ∧
        ∀ id, used (act state action) id → id = next state ∨ used state id)) :
    Counter.Counted (observed act (fun state action =>
        if next (act state action) = next state then [] else [next state]) new actions).length
      (next (run act new actions)) (used (run act new actions)) := by
  refine run_observed_invariant act (fun _ _ => True) _
    (fun seen state => Counter.Counted seen.length (next state) (used state)) ?_ hw
    (along_of_forall act (fun _ _ => trivial) new)
  intro seen state action hc _
  have hn := hc.step (hstep state action)
  by_cases hs : next (act state action) = next state
  · rw [if_pos hs] at hn ⊢
    rwa [List.append_nil]
  · rw [if_neg hs] at hn ⊢
    rwa [List.length_append, List.length_singleton]

lemma counted_pids (actions : List Action) :
    Counter.Counted (observed act allocatedPids new actions).length
      (run act new actions).nextPid (· ∈ (run act new actions).view.processes) := by
  refine counted_run (fun state pid => pid ∈ state.view.processes) ?_ ?_
  · exact Counter.counted_one.keep fun pid hm => by simp [new] at hm
  · exact fun state action => (state.act_transition ..).pids

lemma counted_endpointIds :
    Counter.Counted (observed act allocatedEndpointIds new actions).length
      (run act new actions).nextEndpointId (· ∈ (run act new actions).endpoints) := by
  refine counted_run (fun state eid => eid ∈ state.endpoints) ?_ ?_
  · exact Counter.counted_one.keep fun eid hm => by simp [new] at hm
  · exact fun state action => (state.act_transition ..).endpointIds

lemma counted_capIds :
    Counter.Counted (observed act allocatedCapIds new actions).length
      (run act new actions).nextCapId (run act new actions).view.UsesCapId := by
  refine counted_run (fun state id => state.view.UsesCapId id) ?_ ?_
  · refine Counter.counted_one.keep ?_
    rintro id ⟨_, _, _, hh, -⟩
    simp [new, capAt] at hh
  · exact fun state action => (state.act_transition ..).capIds

-- Until the counters wrap, every action finds the next id unused.

lemma along_fresh_pids (hc : (observed act allocatedPids new actions).length < 2 ^ 64) :
    Run.Along act (fun state _ => state.nextPid ∉ state.view.processes) new actions := by
  refine along_of_split act ?_
  rintro before action after rfl
  have hl := observed_length_le act allocatedPids new before (action :: after)
  exact (counted_pids ..).fresh (by omega)

lemma along_fresh_endpointIds
    (hc : (observed act allocatedEndpointIds new actions).length < 2 ^ 64) :
    Run.Along act (fun state _ => state.nextEndpointId ∉ state.endpoints) new actions := by
  refine along_of_split act ?_
  rintro before action after rfl
  have hl := observed_length_le act allocatedEndpointIds new before (action :: after)
  exact counted_endpointIds.fresh (by omega)

end KernelState

end ZeroOS.Core
