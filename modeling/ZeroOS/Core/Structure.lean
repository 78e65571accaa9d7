import ZeroOS.Core.Invariants
import ZeroOS.Core.Run
import ZeroOS.Lib.MapSum

/-!
What the runtime checks report along a run.
-/

namespace ZeroOS.Core

open BTreeMap Run CapSpaces
open StateView

-- The tables fit together: every process has a space, every endpoint an owner, and every
-- capability is one on an endpoint that exists.
structure Consistent (view : StateView) : Prop where
  spaces : ∀ pid, pid ∈ view.capSpaces ↔ pid ∈ view.processes
  owners : ∀ (eid : EndpointId) endpoint, view.endpoints[eid]? = some endpoint →
    endpoint.owner ∈ view.processes
  objects : ∀ pid slot cap, view.capSpaces.capAt pid slot = some cap →
    cap.objectType = .Endpoint ∧ cap.objectId ∈ view.endpoints

namespace Consistent

variable {view : StateView}

section

variable (hcons : Consistent view)

include hcons

lemma addProcess (name : String) : Consistent (view.addProcess name) where
  spaces := by
    intro pid
    simp only [StateView.addProcess, mem_insert, hcons.spaces]
  owners := by
    intro eid ep hg
    exact (mem_insert ..).mpr (.inr (hcons.owners eid _ hg))
  objects := by
    intro pid slot cap hh
    simp only [StateView.addProcess, capAt_insert] at hh
    split_ifs at hh
    · simp [CapabilitySpace.new, CapabilitySpace.get] at hh
    · exact hcons.objects pid _ cap hh

lemma markZombie : Consistent (view.markZombie pid) where
  spaces := by
    intro other
    exact (hcons.spaces _).trans mem_modify.symm
  owners := by
    intro eid ep hg
    exact mem_modify.mpr (hcons.owners eid _ hg)
  objects := hcons.objects

lemma addEndpoint (hm : owner ∈ view.processes) :
    Consistent (view.addEndpoint owner).burnCapId where
  spaces := hcons.spaces
  owners := by
    intro eid ep hg
    simp only [StateView.addEndpoint, burnCapId, get_insert] at hg
    split_ifs at hg
    · rw [← Option.some.inj hg]
      exact hm
    · exact hcons.owners eid _ hg
  objects := by
    intro pid slot cap hh
    obtain ⟨ht, ho⟩ := hcons.objects pid slot cap hh
    exact ⟨ht, (mem_insert ..).mpr (.inr ho)⟩

lemma burnCapId : Consistent view.burnCapId := ⟨hcons.spaces, hcons.owners, hcons.objects⟩

lemma putSpace {old cs : CapabilitySpace} (hs : view.capSpaces[pid]? = some old)
    (hc : ∀ slot cap, cs.get slot = some cap →
      cap.objectType = .Endpoint ∧ cap.objectId ∈ view.endpoints) :
    Consistent (view.putSpace pid cs) where
  spaces := by
    intro other
    exact (mem_insert_of_get hs).trans (hcons.spaces _)
  owners := hcons.owners
  objects := by
    intro other slot cap hh
    simp only [StateView.putSpace, capAt_insert] at hh
    split_ifs at hh
    · exact hc _ cap hh
    · exact hcons.objects _ _ cap hh

lemma insertCap (hc : view.capSpaces[pid]? = some cs)
    (hn : new.objectType = .Endpoint ∧ new.objectId ∈ view.endpoints) :
    Consistent (view.putSpace pid (cs.insert new).2) := by
  refine hcons.putSpace hc ?_
  intro slot cap hg
  rw [CapabilitySpace.get_insert] at hg
  split_ifs at hg
  · rw [← Option.some.inj hg]
    exact hn
  · exact hcons.objects pid _ cap ((capAt_of_get hc _).trans hg)

lemma removeCap (hc : view.capSpaces[pid]? = some cs) :
    Consistent (view.putSpace pid (cs.remove slot).2) := by
  refine hcons.putSpace hc ?_
  intro other cap hg
  rw [CapabilitySpace.get_remove] at hg
  split_ifs at hg
  exact hcons.objects pid _ cap ((capAt_of_get hc _).trans hg)

lemma putEndpoint (he : view.endpoints[eid]? = some old) (ho : ep.owner = old.owner) :
    Consistent (view.putEndpoint eid ep) where
  spaces := hcons.spaces
  owners := by
    intro other found hg
    simp only [StateView.putEndpoint, get_insert] at hg
    split_ifs at hg
    · rw [← Option.some.inj hg, ho]
      exact hcons.owners eid old he
    · exact hcons.owners _ _ hg
  objects := by
    intro pid slot cap hh
    obtain ⟨ht, hb⟩ := hcons.objects pid slot cap hh
    exact ⟨ht, (mem_putEndpoint he).mpr hb⟩

lemma step (hs : Step pid now view syscall result view') : Consistent view' := by
  have hr : ∀ other, view.Alive other → other ∈ view.processes :=
    fun other ⟨process, hg, _⟩ => (mem_iff ..).mpr ⟨process, hg⟩
  cases hs with
  | Refused | Query => exact hcons
  | Exit => exact hcons.markZombie
  | Kill => exact hcons.markZombie
  | CreateBare _ ha => exact hcons.addEndpoint (hr pid ha)
  | CreateEndpoint _ _ ha hc =>
    exact (hcons.addEndpoint (hr pid ha)).insertCap hc ⟨rfl, (mem_insert ..).mpr (.inl rfl)⟩
  | Send _ _ _ _ _ _ hh | Call _ _ _ _ _ _ hh | SendWithCaps _ _ _ _ _ _ _ _ _ _ hh
  | Receive _ _ _ _ hh | Empty _ _ _ hh => exact hcons.putEndpoint hh.found rfl
  | CapGrant _ _ _ source _ hh _ _ hc =>
    exact hcons.burnCapId.insertCap hc (hcons.objects pid _ source hh.held)
  | GrantBare => exact hcons.burnCapId
  | CapDerive slot _ source _ hg _ hc =>
    have hh : view.capSpaces.capAt pid slot = some source := (capAt_of_get hc _).trans hg
    exact hcons.burnCapId.insertCap hc (hcons.objects pid _ source hh)
  | CapRevoke slot _ _ hc | CapDelete slot _ _ hc => exact hcons.removeCap hc

lemma transition (ht : Transition view action view') : Consistent view' := by
  cases ht with
  | Register => exact hcons.addProcess _
  | Call _ _ _ _ _ hs => exact hcons.step hs

end

end Consistent

structure EndsRecorded (ended : List ProcessId) (view : StateView) : Prop where
  known : ∀ pid ∈ ended, pid ∈ view.processes
  marked : ∀ (pid : ProcessId) process, view.processes[pid]? = some process →
    (process.state = .Zombie ↔ pid ∈ ended)

namespace EndsRecorded

variable {ended : List ProcessId} {view : StateView}

lemma keep (hr : EndsRecorded ended view) (hs : view'.processes = view.processes) :
    EndsRecorded ended view' := by
  refine ⟨?_, ?_⟩
  · rw [hs]
    exact hr.known
  · rw [hs]
    exact hr.marked

lemma addProcess (hr : EndsRecorded ended view) (name : String)
    (hf : view.nextPid ∉ view.processes) : EndsRecorded ended (view.addProcess name) where
  known := fun pid hn => (mem_insert ..).mpr (.inr (hr.known pid hn))
  marked := by
    intro pid process hg
    simp only [StateView.addProcess, get_insert] at hg
    split_ifs at hg with he
    · rw [← Option.some.inj hg, ← he]
      refine ⟨?_, fun hn => absurd (hr.known _ hn) hf⟩
      intro hz
      cases hz
    · exact hr.marked pid _ hg

lemma markZombie (hr : EndsRecorded ended view) (target : ProcessId) :
    EndsRecorded (ended ++ if target ∈ view.processes then [target] else [])
      (view.markZombie target) where
  known := by
    intro pid hen
    refine mem_modify.mpr ?_
    rcases List.mem_append.mp hen with ho | hn
    · exact hr.known pid ho
    · split_ifs at hn with hm
      · rwa [List.mem_singleton.mp hn]
      · cases hn
  marked := by
    intro pid process hg
    simp only [StateView.markZombie, get_modify] at hg
    by_cases he : target = pid
    · subst he
      rw [if_pos rfl] at hg
      obtain ⟨old, ho, rfl⟩ := Option.map_eq_some_iff.mp hg
      have hm : target ∈ view.processes := (mem_iff ..).mpr ⟨old, ho⟩
      simp [hm]
    · rw [if_neg he] at hg
      rw [hr.marked pid process hg, List.mem_append]
      refine ⟨.inl, ?_⟩
      rintro (ho | hn)
      · exact ho
      · split_ifs at hn
        · exact absurd (List.mem_singleton.mp hn).symm he
        · cases hn

end EndsRecorded

namespace KernelState

def ended (state : KernelState) : Action → List ProcessId
  | .Call pid (.Exit _) _ => if pid ∈ state.processes then [pid] else []
  | .Call _ (.Kill target) _ => if target ∈ state.processes then [target] else []
  | _ => []

section

variable {state : KernelState}

lemma ended_of_not_permits (hn : ¬ state.view.Permits pid now syscall) :
    state.ended (.Call pid syscall now) = [] := by
  cases syscall with
  | Exit => exact absurd trivial hn
  | Kill => exact if_neg fun hm => hn ((state.mem_view_processes ..).mpr hm)
  | _ => rfl

lemma ended_of_query (state : KernelState) (hq : Query syscall) :
    state.ended (.Call pid syscall now) = [] := by
  cases syscall with
  | Exit | Kill => exact hq.elim
  | _ => rfl

lemma endsRecorded_act (hr : EndsRecorded seen state.view)
    (hf : state.nextPid ∉ state.view.processes) :
    EndsRecorded (seen ++ state.ended action) (state.act action).view := by
  have hm : ∀ target, EndsRecorded (seen ++ if target ∈ state.processes then [target] else [])
      (state.view.markZombie target) := by
    intro target
    have hmr := hr.markZombie target
    simpa only [mem_view_processes] using hmr
  have hk : ∀ view', view'.processes = state.view.processes → EndsRecorded (seen ++ []) view' := by
    intro view' hs
    rw [List.append_nil]
    exact hr.keep hs
  have ht := state.act_transition action
  generalize (state.act action).view = view' at ht ⊢
  cases ht with
  | Register =>
    rw [show state.ended _ = [] from rfl, List.append_nil]
    exact hr.addProcess _ hf
  | Call pid _ _ _ _ hst =>
    cases hst with
    | Refused _ _ hn =>
      rw [ended_of_not_permits hn]
      exact hk _ rfl
    | Query _ _ hq =>
      rw [state.ended_of_query hq]
      exact hk _ rfl
    | Exit => exact hm pid
    | Kill => exact hm ..
    | _ => exact hk _ rfl

lemma capAt_of_mem_toList {spaces : CapSpaces} (hc : (pid, cs) ∈ spaces.toList)
    (hs : (slot, cap) ∈ cs.slots.toList) : spaces.capAt pid slot = some cap := by
  have hg : cs.get slot = some cap := (mem_toList ..).mp hs
  exact (capAt_of_get ((mem_toList ..).mp hc) slot).trans hg

lemma consistent_new : Consistent new.view where
  spaces := by
    simp [new]
  owners := by
    intro eid ep hg
    simp [new] at hg
  objects := by
    intro pid slot cap hh
    simp [new, capAt] at hh

lemma endsRecorded_new : EndsRecorded [] new.view where
  known := by
    intro pid he
    cases he
  marked := by
    intro pid process hg
    simp [new] at hg

-- What the checks report in a state whose tables fit together and whose counters are ahead.

lemma checkProcessCapabilityConsistency_of_consistent (hcons : Consistent state.view) :
    state.checkProcessCapabilityConsistency = [] := by
  unfold checkProcessCapabilityConsistency
  rw [List.append_eq_nil_iff, List.filterMap_eq_nil_iff, List.filterMap_eq_nil_iff]
  refine ⟨?_, ?_⟩
  · rintro ⟨pid, _⟩ hm
    have hp := (state.mem_view_processes pid).mpr (mem_of_mem_toList hm)
    exact if_neg (not_not_intro ((hcons.spaces pid).mpr hp))
  · rintro ⟨pid, _⟩ hm
    have hp := (hcons.spaces pid).mp (mem_of_mem_toList hm)
    exact if_neg (not_not_intro ((state.mem_view_processes pid).mp hp))

lemma checkEndpointOwnership_of_consistent {ended : List ProcessId}
    (hcons : Consistent state.view) (hr : EndsRecorded ended state.view) :
    state.checkEndpointOwnership =
      (state.endpoints.toList.filter fun (_, ep) => ep.owner ∈ ended).map
        fun (eid, ep) => zombieOwner eid ep.owner := by
  rw [← List.filterMap_eq_map, List.filterMap_filter]
  refine List.filterMap_congr ?_
  rintro ⟨eid, ep⟩ hme
  have ho := hcons.owners eid ep ((mem_toList ..).mp hme)
  obtain ⟨process, hg⟩ := (mem_iff ..).mp ((state.mem_view_processes _).mp ho)
  have hm := hr.marked ep.owner process.view (by rw [view_processes_get, hg]; rfl)
  simp only [hg]
  by_cases he : ep.owner ∈ ended
  · simp [he, show process.state = .Zombie from hm.mpr he]
  · simp [he, show process.state ≠ .Zombie from fun hz => he (hm.mp hz)]

lemma checkCapabilityObjectValidity_of_consistent (hcons : Consistent state.view) :
    state.checkCapabilityObjectValidity = [] := by
  unfold checkCapabilityObjectValidity
  rw [List.flatMap_eq_nil_iff]
  rintro ⟨pid, _⟩ hc
  rw [List.filterMap_eq_nil_iff]
  rintro ⟨slot, cap⟩ hs
  have hh := capAt_of_mem_toList hc hs
  obtain ⟨ht, ho⟩ := hcons.objects pid slot cap hh
  simp only [ht]
  exact if_neg (not_not_intro ho)

lemma checkIdMonotonicity_of_counted (hp : ∀ pid ∈ state.view.processes, pid < state.nextPid)
    (he : ∀ eid ∈ state.endpoints, eid < state.nextEndpointId)
    (hc : ∀ id, state.view.UsesCapId id → id < state.nextCapId) :
    state.checkIdMonotonicity = [] := by
  unfold checkIdMonotonicity
  rw [List.append_eq_nil_iff, List.append_eq_nil_iff, List.filterMap_eq_nil_iff,
    List.filterMap_eq_nil_iff, List.flatMap_eq_nil_iff]
  refine ⟨⟨?_, ?_⟩, ?_⟩
  · rintro ⟨pid, _⟩ hm
    have hd := (state.mem_view_processes pid).mpr (mem_of_mem_toList hm)
    exact if_neg (UInt64.not_le.mpr (hp pid hd))
  · rintro ⟨eid, _⟩ hm
    exact if_neg (UInt64.not_le.mpr (he eid (mem_of_mem_toList hm)))
  · rintro ⟨pid, _⟩ hs
    rw [List.filterMap_eq_nil_iff]
    rintro ⟨slot, cap⟩ hl
    have hh := capAt_of_mem_toList hs hl
    exact if_neg (UInt64.not_le.mpr (hc cap.id ⟨pid, slot, cap, hh, rfl⟩))

end

theorem checkAllInvariants_run (actions : List Action)
    (hpids : (Run.observed act allocatedPids new actions).length + 1 < 2 ^ 64)
    (heids : (Run.observed act allocatedEndpointIds new actions).length + 1 < 2 ^ 64)
    (hcaps : (Run.observed act allocatedCapIds new actions).length + 1 < 2 ^ 64) :
    (Run.run act new actions).checkAllInvariants =
      ((Run.run act new actions).endpoints.toList.filter fun (_, endpoint) =>
        endpoint.owner ∈ Run.observed act ended new actions).map
          fun (eid, endpoint) => zombieOwner eid endpoint.owner := by
  have hcons : Consistent (run act new actions).view := by
    refine run_invariant act (fun _ _ => True) (fun state => Consistent state.view) ?_ ?_
      (along_of_forall act (fun _ _ => trivial) new)
    · exact fun state action hcons _ => hcons.transition (state.act_transition ..)
    · exact consistent_new
  have hr : EndsRecorded (observed act ended new actions) (run act new actions).view := by
    refine run_observed_invariant act _ _ (fun seen state => EndsRecorded seen state.view)
      ?_ ?_ (along_fresh_pids (by omega))
    · exact fun seen state action hr hf => endsRecorded_act hr hf
    · exact endsRecorded_new
  unfold checkAllInvariants
  rw [checkProcessCapabilityConsistency_of_consistent hcons,
    checkEndpointOwnership_of_consistent hcons hr,
    checkCapabilityObjectValidity_of_consistent hcons,
    checkIdMonotonicity_of_counted
      (fun pid => (counted_pids ..).lt_next hpids)
      (fun eid => counted_endpointIds.lt_next heids)
      (fun id => counted_capIds.lt_next hcaps)]
  simp

def exitedOwner : List Action :=
  [.Register "app" 0, .Call 1 .CreateEndpoint 0, .Call 1 (.Exit 0) 0]

theorem checkAllInvariants_exitedOwner :
    (Run.run act new exitedOwner).checkAllInvariants = [zombieOwner 1 1] :=
  (checkAllInvariants_run _ (by decide +kernel) (by decide +kernel)
    (by decide +kernel)).trans (by decide +kernel)

-- One process short of a full table, the counter of pids is back at zero.

lemma allocatedPids_registers :
    (observed act allocatedPids state (List.replicate count (.Register name 0))).length =
      count := by
  induction count generalizing state with
  | zero => rfl
  | succ _ ih =>
    have ho : state.allocatedPids (.Register name 0) = [state.nextPid] :=
      if_neg (by simp [act, registerProcess, allocPid])
    rw [List.replicate_succ, observed, List.length_append, ho, ih]
    simp [Nat.add_comm]

lemma allocates_only_pids (name : String) (count : Nat) (state : KernelState) :
    observed act allocatedEndpointIds state (List.replicate count (.Register name 0)) = [] ∧
      observed act allocatedCapIds state (List.replicate count (.Register name 0)) = [] := by
  induction count generalizing state with
  | zero => exact ⟨rfl, rfl⟩
  | succ _ ih =>
    obtain ⟨he, hc⟩ := ih (state.act (.Register name 0))
    rw [List.replicate_succ, observed, observed, he, hc, List.append_nil, List.append_nil]
    exact ⟨if_pos rfl, if_pos rfl⟩

lemma mem_processes_registers (name : String) (count : Nat) (hm : pid ∈ state.processes) :
    pid ∈ (run act state (List.replicate count (.Register name 0))).processes := by
  induction count generalizing state with
  | zero => exact hm
  | succ _ ih => exact ih ((mem_insert ..).mpr (.inr hm))

lemma staleCounter_registers (hc : count + 1 = 2 ^ 64) :
    staleCounter "Process" 1 "next_pid" 0 ∈
      (run act new (List.replicate count (.Register "app" 0))).checkAllInvariants := by
  have hn := (counted_pids (List.replicate count (.Register "app" 0))).next
  rw [allocatedPids_registers, hc] at hn
  obtain ⟨rest, rfl⟩ : ∃ rest, count = rest + 1 := ⟨count - 1, by omega⟩
  have hf : (1 : ProcessId) ∈
      (run act new (List.replicate (rest + 1) (.Register "app" 0))).processes :=
    mem_processes_registers "app" rest ((mem_insert ..).mpr (.inl rfl))
  generalize run act new (List.replicate (rest + 1) (.Register "app" 0)) = state at hn hf ⊢
  have hz : state.nextPid = 0 := UInt64.toNat_inj.mp hn
  obtain ⟨process, hg⟩ := (mem_iff ..).mp hf
  refine List.mem_append_right _ (List.mem_append_left _ (List.mem_append_left _ ?_))
  refine List.mem_filterMap.mpr ⟨(1, process), (mem_toList ..).mpr hg, ?_⟩
  simp [hz]

theorem exists_staleCounter :
    ∃ actions : List Action,
      (Run.observed act allocatedPids new actions).length +
        (Run.observed act allocatedEndpointIds new actions).length +
        (Run.observed act allocatedCapIds new actions).length < 2 ^ 64 ∧
      ∃ violation ∈ (Run.run act new actions).checkAllInvariants,
        ∀ eid owner, violation ≠ zombieOwner eid owner := by
  obtain ⟨count, hc⟩ : ∃ count, count + 1 = 2 ^ 64 := ⟨2 ^ 64 - 1, by decide⟩
  refine ⟨List.replicate count (.Register "app" 0), ?_, _, staleCounter_registers hc, ?_⟩
  · obtain ⟨he, ha⟩ := allocates_only_pids "app" count new
    rw [allocatedPids_registers, he, ha]
    simp
    omega
  · intro eid owner hq
    have hn : "id_monotonicity" = "endpoint_ownership" := congrArg InvariantViolation.invariant hq
    exact absurd hn (by decide)

end KernelState

end ZeroOS.Core
