import ZeroOS.Authority.Amplification
import ZeroOS.Core.History

/-!
What a step may change outside the caller's own entry and space, and the
capabilities that entitle the caller to it.
-/

namespace ZeroOS.Core

open BTreeMap Permissions Option
open StateView

-- Nobody's metrics change but the caller's.

namespace KernelState

variable (state : KernelState)

def metricsOf (pid : ProcessId) : Option ProcessMetrics := state.processes[pid]?.map Process.metrics

lemma metricsOf_modify (hn : other ≠ pid) :
    (state.processes.modify pid change)[other]?.map Process.metrics = state.metricsOf other := by
  rw [get_modify, if_neg hn.symm]
  rfl

lemma metricsOf_killProcess :
    (state.killProcess target).metricsOf other = state.metricsOf other := by
  unfold metricsOf killProcess
  rw [get_modify]
  split
  · rw [map_map]
    rfl
  · rfl

lemma stepSend_metrics (hn : other ≠ pid) (slot : CapSlot) (tag : UInt32) (data : List UInt8)
    (now : UInt64) :
    (state.stepSend pid slot tag data now).state.metricsOf other = state.metricsOf other := by
  dsimp only [stepSend]
  repeat' split
  all_goals first | rfl | exact state.metricsOf_modify hn

lemma stepReceive_metrics (hn : other ≠ pid) :
    (state.stepReceive pid slot now).state.metricsOf other = state.metricsOf other := by
  dsimp only [stepReceive]
  repeat' split
  all_goals first | rfl | exact state.metricsOf_modify hn

lemma insertCap_processes : (state.insertCap pid cap).2.processes = state.processes := by
  unfold insertCap
  split <;> rfl

lemma removeCap_processes (pid : ProcessId) (slot : CapSlot) :
    (state.removeCap pid slot).2.processes = state.processes := by
  unfold removeCap
  split <;> rfl

lemma dispatch_metrics (hn : other ≠ pid) :
    (state.dispatch pid syscall now).state.metricsOf other = state.metricsOf other := by
  cases syscall with
  | Debug | GetTime | Yield | ListProcesses | ListCaps => rfl
  | Exit => exact state.metricsOf_modify hn
  | Kill =>
    unfold dispatch stepKill
    dsimp only
    split
    · rfl
    · exact state.metricsOf_killProcess
  | CreateEndpoint =>
    unfold dispatch stepCreateEndpoint
    dsimp only
    split
    · rfl
    · unfold metricsOf
      rw [insertCap_processes]
      rfl
  | Send => exact state.stepSend_metrics hn ..
  | Receive => exact state.stepReceive_metrics hn
  | SendWithCaps =>
    dsimp only [dispatch, stepSendWithCaps]
    repeat' split
    all_goals rfl
  | Call slot tag data =>
    have he := state.stepSend_metrics hn slot tag data now
    unfold dispatch stepCall
    dsimp only
    split <;> exact he
  | CapGrant =>
    unfold dispatch stepCapGrant
    dsimp only
    repeat' split
    all_goals first | rfl | (unfold metricsOf; rw [insertCap_processes]; rfl)
  | CapDerive =>
    unfold dispatch stepCapDerive
    dsimp only
    repeat' split
    all_goals first | rfl | (unfold metricsOf; rw [insertCap_processes]; rfl)
  | CapRevoke slot | CapDelete slot =>
    have hs := state.removeCap_processes pid slot
    unfold dispatch
    dsimp only [stepCapRevoke, stepCapDelete]
    unfold metricsOf
    split
    all_goals rename_i hq; rw [hq] at hs; rw [← hs]
  | CapInspect =>
    unfold dispatch
    rw [stepCapInspect_state]

lemma step_metrics (hn : other ≠ pid) :
    (state.step pid syscall now).state.metricsOf other = state.metricsOf other :=
  ((state.updateSyscallMetrics pid now).dispatch_metrics hn).trans (state.metricsOf_modify hn)

end KernelState

lemma process_eq_of_view {first second : Option Process}
    (hv : first.map Process.view = second.map Process.view)
    (hm : first.map Process.metrics = second.map Process.metrics) : first = second := by
  cases first with
  | none =>
    cases second with
    | none => rfl
    | some => simp at hv
  | some one =>
    cases second with
    | none => simp at hv
    | some =>
      obtain ⟨_, _, _, _⟩ := one
      simp_all [Process.view]

section Step

variable {pid : ProcessId} {now : UInt64} {view view' : StateView} {syscall : Syscall}
  {result : SyscallResult}

lemma markZombie_get_of_ne (hn : other ≠ target) :
    (view.markZombie target).processes[other]? = view.processes[other]? := by
  rw [StateView.markZombie, get_modify, if_neg hn.symm]

lemma markZombie_get_of_not_alive (hd : ¬ view.Alive target) :
    (view.markZombie target).processes[target]? = view.processes[target]? := by
  rw [StateView.markZombie, get_modify, if_pos rfl]
  cases hg : view.processes[target]? with
  | none => rfl
  | some process =>
    have hz : process.state = .Zombie := by
      by_contra hs
      exact hd ⟨process, hg, hs⟩
    simp [← hz]

lemma Step.processes_of_ne (hs : Step pid now view syscall result view') (hn : other ≠ pid) :
    view'.processes[other]? = view.processes[other]? ∨
      (syscall = .Kill other ∧ view.Alive other) := by
  cases hs with
  | Exit => exact .inl (markZombie_get_of_ne hn)
  | Kill target =>
    by_cases he : other = target
    · subst he
      by_cases ha : view.Alive other
      · exact .inr ⟨rfl, ha⟩
      · exact .inl (markZombie_get_of_not_alive ha)
    · exact .inl (markZombie_get_of_ne he)
  | _ => exact .inl rfl

lemma covers_child {source : Capability} (hs : perms.isSubsetOf source.permissions = true)
    (id : UInt64) :
    source.Covers (source.child id perms) where
  objectType := rfl
  objectId := rfl
  rights := by
    intro right h
    simp only [isSubsetOf] at hs
    cases right <;> simp_all [has, Capability.child]

lemma Step.space_of_ne (hs : Step pid now view syscall result view') (hn : other ≠ pid) :
    view'.capSpaces[other]? = view.capSpaces[other]? ∨
      ∃ slot source cs cap, view.Holds pid slot now grant source ∧
        source.Covers cap ∧ cap.expiresAt = source.expiresAt ∧
        view.capSpaces[other]? = some cs ∧
        view'.capSpaces[other]? = some (cs.insert cap).2 := by
  cases hs with
  | CreateEndpoint | CapDerive | CapRevoke | CapDelete => exact .inl (get_insert_ne hn.symm)
  | CapGrant slot toPid _ source cs hh _ hu hc =>
    by_cases he : toPid = other
    · subst he
      refine .inr ⟨slot, source, cs, _, hh, covers_child hu view.nextCapId, rfl, hc, ?_⟩
      rw [StateView.putSpace, get_insert, if_pos rfl]
    · exact .inl (get_insert_ne he)
  | _ => exact .inl rfl

end Step

namespace KernelState

lemma step_processes_of_ne (state : KernelState) (hn : other ≠ pid) (syscall : Syscall)
    (now : UInt64) :
    (state.step pid syscall now).state.processes[other]? = state.processes[other]? ∨
      (syscall = .Kill other ∧ state.view.Alive other) := by
  refine ((state.step_step pid _ now).processes_of_ne hn).imp_left ?_
  intro hs
  rw [view_processes_get, view_processes_get] at hs
  exact process_eq_of_view hs (state.step_metrics hn)

lemma view_step_kill (state : KernelState) (hm : target ∈ state.view.processes) :
    (state.step pid (.Kill target) now).state.view = state.view.markZombie target := by
  have hs := state.step_step pid (.Kill target) now
  generalize (state.step pid (.Kill target) now).state.view = view' at hs ⊢
  generalize (state.step pid (.Kill target) now).result = result at hs
  cases hs with
  | Refused _ _ hr => exact absurd hm hr
  | Query _ _ hq => exact hq.elim
  | Kill => rfl

lemma kill_changes (state : KernelState) (hl : state.view.Alive target) :
    (state.step pid (.Kill target) now).state.processes[target]? ≠ state.processes[target]? := by
  obtain ⟨process, hg, hs⟩ := hl
  intro ha
  have hv := congrArg (Option.map Process.view) ha
  rw [← view_processes_get, ← view_processes_get, state.view_step_kill ((mem_iff ..).mpr
    ⟨process, hg⟩), markZombie, get_modify, if_pos rfl, hg] at hv
  exact hs (congrArg ProcessView.state (some.inj hv)).symm

variable (state : KernelState) (pid : ProcessId) (now : UInt64)

def MayUse (eid : EndpointId) (right : Permissions → Bool) : Prop :=
  ∃ slot, state.Uses eid pid slot now right

def MayKill (target : ProcessId) : Prop :=
  ∃ slot cap, state.view.Holds pid slot now Permissions.write cap ∧
    cap.objectType = .Process ∧ cap.objectId = target

-- Whatever a step changes beyond the caller's own entry and space, a live capability of the
-- caller stands for it.
structure WithinAuthority (syscall : Syscall) : Prop where
  processes : ∀ other, other ≠ pid →
    (state.step pid syscall now).state.processes[other]? ≠ state.processes[other]? →
    state.MayKill pid now other
  owners : ∀ (eid : EndpointId) endpoint, state.endpoints[eid]? = some endpoint →
    ∃ after, (state.step pid syscall now).state.endpoints[eid]? = some after ∧
      after.owner = endpoint.owner
  created : ∀ (eid : EndpointId) endpoint, eid ∉ state.endpoints →
    (state.step pid syscall now).state.endpoints[eid]? = some endpoint →
    syscall = .CreateEndpoint ∧ endpoint = Endpoint.new eid pid
  queues : ∀ eid,
    pending (state.step pid syscall now).state.endpoints eid = pending state.endpoints eid ∨
    (∃ msg, pending (state.step pid syscall now).state.endpoints eid =
        pending state.endpoints eid ++ [msg] ∧ state.MayUse pid now eid Permissions.write) ∨
    (pending (state.step pid syscall now).state.endpoints eid <:+ pending state.endpoints eid ∧
      state.MayUse pid now eid Permissions.read)
  spaces : ∀ other, other ≠ pid →
    (state.step pid syscall now).state.capSpaces[other]? = state.capSpaces[other]? ∨
    ∃ slot source cspace cap, state.view.Holds pid slot now Permissions.grant source ∧
      source.Covers cap ∧ cap.expiresAt = source.expiresAt ∧
      state.capSpaces[other]? = some cspace ∧
      (state.step pid syscall now).state.capSpaces[other]? = some (cspace.insert cap).2
  derived : ∀ slot perms value, syscall = .CapDerive slot perms →
    (state.step pid syscall now).result = .Ok value →
    ∃ source, state.capSpaces.capAt pid slot = some source ∧ source.isExpired now = false

-- The calls that get by without the check they need: the kill of a live process, the derivation
-- from an expired source, and, once the counter has come round, an endpoint put in the place of
-- another.
def Unchecked : Syscall → Prop
  | .Kill target => target ≠ pid ∧ state.view.Alive target ∧ ¬ state.MayKill pid now target
  | .CreateEndpoint =>
    state.view.Alive pid ∧ ∃ endpoint, state.endpoints[state.nextEndpointId]? = some endpoint ∧
      (endpoint.owner ≠ pid ∨ endpoint.pendingMessages ≠ [] ∧
        ¬ state.MayUse pid now state.nextEndpointId Permissions.read)
  | .CapDerive slot perms =>
    ∃ source, state.capSpaces.capAt pid slot = some source ∧ source.isExpired now = true ∧
      perms.isSubsetOf source.permissions = true
  | _ => False

variable {state pid now} {syscall : Syscall}

lemma processes_of_checked (hc : ¬ state.Unchecked pid now syscall) (hn : other ≠ pid)
    (hh : (state.step pid syscall now).state.processes[other]? ≠ state.processes[other]?) :
    state.MayKill pid now other := by
  rcases state.step_processes_of_ne hn syscall now with hs | ⟨rfl, ha⟩
  · exact absurd hs hh
  · by_contra ho
    exact hc ⟨hn, ha, ho⟩

lemma owners_of_checked (hc : ¬ state.Unchecked pid now syscall) {eid : EndpointId}
    (hg : state.endpoints[eid]? = some ep) :
    ∃ after, (state.step pid syscall now).state.endpoints[eid]? = some after ∧
      after.owner = ep.owner := by
  have hi : ∀ (other : EndpointId) (new : Endpoint),
      (∀ old, state.endpoints[other]? = some old → new.owner = old.owner) →
      ∃ after, (state.endpoints.insert other new)[eid]? = some after ∧ after.owner = ep.owner := by
    intro other new hn
    rw [get_insert]
    by_cases he : other = eid
    · exact ⟨new, if_pos he, hn _ (by rwa [he])⟩
    · exact ⟨ep, by rwa [if_neg he], rfl⟩
  have hq := (state.step_step pid syscall now).queueStep
  rw [view_endpoints] at hq
  generalize (state.step pid syscall now).state.endpoints = endpoints at hq ⊢
  cases hq with
  | Quiet => exact ⟨ep, hg, rfl⟩
  | Create ha hv =>
    refine hi _ _ ?_
    intro old hl
    by_contra ho
    rw [ha] at hc
    exact hc ⟨hv, old, hl, .inl (Ne.symm ho)⟩
  | Push _ _ _ found _ _ hh | Pop _ _ found _ _ _ hh =>
    refine hi _ _ ?_
    intro old hl
    have hs : found = old := some.inj (hh.found.symm.trans hl)
    rw [← hs]
    rfl

lemma created_of_step (hn : eid ∉ state.endpoints)
    (hg : (state.step pid syscall now).state.endpoints[eid]? = some ep) :
    syscall = .CreateEndpoint ∧ ep = Endpoint.new eid pid := by
  have hl : state.endpoints[eid]? = none := not_mem_iff.mp hn
  -- An endpoint that is written back was there before.
  have hb : ∀ {other : EndpointId} {found after : Endpoint}, state.endpoints[other]? = some found →
      (state.endpoints.insert other after)[eid]? ≠ some ep := by
    intro other found after ho ha
    rw [get_insert] at ha
    split_ifs at ha with he
    · rw [he, hl] at ho
      cases ho
    · rw [hl] at ha
      cases ha
  have hq := (state.step_step pid syscall now).queueStep
  rw [view_endpoints] at hq
  generalize (state.step pid syscall now).state.endpoints = endpoints at hq hg
  cases hq with
  | Quiet =>
    rw [view_endpoints, hl] at hg
    cases hg
  | Create hc =>
    rw [addEndpoint, get_insert, view_endpoints, hl] at hg
    split_ifs at hg with he
    rw [← some.inj hg, ← he]
    exact ⟨hc, rfl⟩
  | Push _ _ _ _ _ _ hh | Pop _ _ _ _ _ _ hh => exact absurd hg (hb hh.found)

lemma queues_of_checked (hc : ¬ state.Unchecked pid now syscall) (eid : EndpointId) :
    pending (state.step pid syscall now).state.endpoints eid = pending state.endpoints eid ∨
    (∃ msg, pending (state.step pid syscall now).state.endpoints eid =
        pending state.endpoints eid ++ [msg] ∧ state.MayUse pid now eid write) ∨
    (pending (state.step pid syscall now).state.endpoints eid <:+ pending state.endpoints eid ∧
      state.MayUse pid now eid read) := by
  have hq := (state.step_step pid syscall now).queueStep
  rw [view_endpoints] at hq
  generalize (state.step pid syscall now).state.endpoints = endpoints at hq ⊢
  cases hq with
  | Quiet => exact .inl rfl
  | Create hca ha =>
    rw [addEndpoint, pending_insert]
    split_ifs with he
    · -- The queue that was _, if _, has ..
      rw [hca] at hc
      cases hg : state.endpoints[eid]? with
      | none => exact .inl (pending_of_not_mem (not_mem_iff.mpr hg)).symm
      | some ep =>
        rw [pending_of_found hg]
        by_cases hm : ep.pendingMessages = []
        · exact .inl hm.symm
        · refine .inr (.inr ⟨List.nil_suffix, ?_⟩)
          by_contra hn
          subst he
          exact hc ⟨ha, ep, hg, .inr ⟨hm, hn⟩⟩
    · exact .inl rfl
  | Push slot msg cap ep _ _ hh =>
    rw [putEndpoint, pending_insert]
    split_ifs with he
    · refine .inr (.inl ⟨msg, ?_, slot, cap, ep, hh, he⟩)
      subst he
      have ho : state.endpoints[cap.objectId]? = some ep := hh.found
      rw [pending_of_found ho]
      rfl
    · exact .inl rfl
  | Pop slot cap ep _ _ _ hh =>
    rw [putEndpoint, pending_insert]
    split_ifs with he
    · refine .inr (.inr ⟨?_, slot, cap, ep, hh, he⟩)
      subst he
      have ho : state.endpoints[cap.objectId]? = some ep := hh.found
      rw [pending_of_found ho]
      exact List.tail_suffix _
    · exact .inl rfl

lemma derived_of_checked (hc : ¬ state.Unchecked pid now (.CapDerive slot perms))
    (hr : (state.step pid (.CapDerive slot perms) now).result = .Ok value) :
    ∃ source, state.capSpaces.capAt pid slot = some source ∧ source.isExpired now = false := by
  have hs := state.step_step pid (.CapDerive slot perms) now
  rw [hr] at hs
  generalize (state.step pid (.CapDerive slot perms) now).state.view = view' at hs
  cases hs with
  | Query _ _ hq => exact hq.elim
  | CapDerive _ _ source _ hg hu hcs =>
    have hh : state.capSpaces.capAt pid slot = some source :=
      (CapSpaces.capAt_of_get hcs _).trans hg
    refine ⟨source, hh, ?_⟩
    by_contra he
    exact hc ⟨source, hh, by simpa using he, hu⟩

-- The three exceptions are real.

lemma not_within_kill (hu : state.Unchecked pid now (.Kill target)) :
    ¬ state.WithinAuthority pid now (.Kill target) := by
  obtain ⟨hn, ha, ho⟩ := hu
  exact fun hi => ho (hi.processes _ hn (state.kill_changes ha))

lemma not_within_create (hu : state.Unchecked pid now .CreateEndpoint) :
    ¬ state.WithinAuthority pid now .CreateEndpoint := by
  obtain ⟨hv, ep, hg, ho⟩ := hu
  intro hi
  have hp : (state.step pid .CreateEndpoint now).state.endpoints =
      state.endpoints.insert state.nextEndpointId (Endpoint.new state.nextEndpointId pid) :=
    ((state.step_step ..).create hv).2.2
  rcases ho with hw | ⟨hf, hn⟩
  · obtain ⟨_, ha, hs⟩ := hi.owners _ ep hg
    rw [hp, get_insert, if_pos rfl] at ha
    rw [← some.inj ha] at hs
    exact hw hs.symm
  · have hq := hi.queues state.nextEndpointId
    rw [hp, pending_insert, if_pos rfl, pending_of_found hg] at hq
    rcases hq with hs | ⟨_, hpu, -⟩ | ⟨-, hr⟩
    · exact hf hs.symm
    · have hl := congrArg List.length hpu
      simp [Endpoint.new] at hl
    · exact hn hr

lemma not_within_derive (hn : state.Unchecked pid now (.CapDerive slot perms)) :
    ¬ state.WithinAuthority pid now (.CapDerive slot perms) := by
  obtain ⟨source, hh, he, hsu⟩ := hn
  intro hi
  have hl : ∀ value, (state.step pid (.CapDerive slot perms) now).result ≠ .Ok value := by
    intro value hr
    obtain ⟨_, hg, hu⟩ := hi.derived slot perms value rfl hr
    rw [hh] at hg
    rw [← some.inj hg, he] at hu
    cases hu
  have hs := state.step_step pid (.CapDerive slot perms) now
  generalize (state.step pid (.CapDerive slot perms) now).state.view = view' at hs
  generalize (state.step pid (.CapDerive slot perms) now).result = result at hs hl
  cases hs with
  | Refused _ _ hf => exact hf ⟨source, hh, hsu⟩
  | Query _ _ hq => exact hq.elim
  | CapDerive => exact hl _ rfl

theorem withinAuthority_iff (state : KernelState) (pid : ProcessId) (syscall : Syscall)
    (now : UInt64) :
    state.WithinAuthority pid now syscall ↔ ¬ state.Unchecked pid now syscall := by
  refine ⟨?_, ?_⟩
  · intro hi hu
    cases syscall with
    | Kill => exact not_within_kill hu hi
    | CreateEndpoint => exact not_within_create hu hi
    | CapDerive => exact not_within_derive hu hi
    | _ => exact hu
  · intro hc
    refine ⟨?_, ?_, ?_, queues_of_checked hc, ?_, ?_⟩
    · exact fun other hn hh => processes_of_checked hc hn hh
    · exact fun eid ep hg => owners_of_checked hc hg
    · exact fun eid ep hw hg => created_of_step hw hg
    · exact fun other hn => (state.step_step ..).space_of_ne hn
    · rintro slot perms value rfl hr
      exact derived_of_checked hc hr

-- A process without a single capability ends another.
def pair : KernelState := Run.run act new [.Register "first" 0, .Register "second" 0]

theorem not_withinAuthority_pair : ¬ pair.WithinAuthority 1 0 (.Kill 2) := by
  intro hi
  obtain ⟨slot, _, hh, -⟩ := hi.processes 2 (by decide) (by decide +kernel)
  have hc : pair.capSpaces[(1 : ProcessId)]? = some CapabilitySpace.new := by decide +kernel
  have hg := (CapSpaces.capAt_of_get hc slot).symm.trans hh.held
  simp [CapabilitySpace.new, CapabilitySpace.get] at hg

end KernelState

end ZeroOS.Core
