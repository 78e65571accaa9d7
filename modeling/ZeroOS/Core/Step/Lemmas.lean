import ZeroOS.Core.View
import ZeroOS.Kernel.View.Lemmas

namespace ZeroOS.Core

open Permissions BTreeMap CapSpaces Option
open StateView

namespace KernelState

variable (state : KernelState)

@[simp] lemma view_capSpaces : state.view.capSpaces = state.capSpaces := rfl

@[simp] lemma view_endpoints : state.view.endpoints = state.endpoints := rfl

@[simp] lemma view_nextPid : state.view.nextPid = state.nextPid := rfl

@[simp] lemma view_nextEndpointId : state.view.nextEndpointId = state.nextEndpointId := rfl

@[simp] lemma view_processes_get {pid : ProcessId} :
    state.view.processes[pid]? = state.processes[pid]?.map Process.view :=
  get_map _ _ _

@[simp] lemma mem_view_processes (pid : ProcessId) :
    pid ∈ state.view.processes ↔ pid ∈ state.processes := by
  simp [KernelState.view]

@[simp] lemma view_updateSyscallMetrics (pid : ProcessId) (now : UInt64) :
    (state.updateSyscallMetrics pid now).view = state.view := by
  simp only [view, updateSyscallMetrics]
  rw [map_modify_of_same]
  exact fun _ => rfl

lemma view_registerProcess :
    (state.registerProcess name now).2.view = state.view.addProcess name := by
  simp only [registerProcess, view, map_insert]
  rfl

lemma view_killProcess : (state.killProcess pid).view = state.view.markZombie pid := by
  simp only [killProcess, view, markZombie]
  rw [map_modify]
  exact fun _ => rfl

lemma processExists_iff : state.processExists pid = true ↔ state.view.Alive pid := by
  unfold processExists Alive
  rw [view_processes_get]
  cases state.processes[pid]? with
  | none => simp
  | some => simp [Process.view]

def Asks (required : Permissions) (right : Permissions → Bool) : Prop :=
  ∀ perms, right perms = true ↔ (required.read = true → perms.read = true) ∧
    (required.write = true → perms.write = true) ∧ (required.grant = true → perms.grant = true)

lemma axiomCheck_ok_iff_holds (hc : state.capSpaces[pid]? = some cs) (hi : Asks required right)
    (slot : CapSlot) (expectedType : Option ObjectType) (now : UInt64) (cap : Capability) :
    axiomCheck cs slot required expectedType now = .ok cap ↔
      state.view.Holds pid slot now right cap ∧
        ∀ expected, expectedType = some expected → cap.objectType = expected := by
  have hh : state.view.capSpaces.capAt pid slot = cs.get slot := capAt_of_get hc slot
  rw [axiomCheck_ok_iff]
  constructor
  · rintro ⟨hg, ht, hr, hw, hgr, hl⟩
    exact ⟨⟨hh.trans hg, (hi _).mpr ⟨hr, hw, hgr⟩, hl⟩, ht⟩
  · rintro ⟨⟨hg, hp, hl⟩, ht⟩
    obtain ⟨hr, hw, hgr⟩ := (hi _).mp hp
    exact ⟨hh.symm.trans hg, ht, hr, hw, hgr, hl⟩

lemma asks_writeOnly : Asks .writeOnly write := by
  simp [Asks, writeOnly]

lemma asks_readOnly : Asks .readOnly read := by
  simp [Asks, readOnly]

lemma asks_grant : Asks ⟨false, false, true⟩ grant := by
  simp [Asks]

lemma not_capAt_of_none (hc : state.capSpaces[pid]? = none)
    (cap : Capability) : state.view.capSpaces.capAt pid slot ≠ some cap := by
  simp [capAt, hc]

def lookup (pid : ProcessId) (slot : CapSlot) (required : Permissions) (now : UInt64) :
    Except KernelError (Capability × Endpoint) :=
  match state.capSpaces[pid]? with
  | none => .error .ProcessNotFound
  | some cspace =>
    match axiomCheck cspace slot required (some .Endpoint) now with
    | .error e => .error (.ofAxiomError e)
    | .ok cap =>
      match state.endpoints[cap.objectId]? with
      | none => .error .EndpointNotFound
      | some endpoint => .ok (cap, endpoint)

lemma lookup_ok_iff (hr : Asks required right)
    (pid : ProcessId) (slot : CapSlot) (now : UInt64) (cap : Capability) (ep : Endpoint) :
    state.lookup pid slot required now = .ok (cap, ep) ↔
      state.view.HoldsEndpoint pid slot now right cap ep := by
  unfold lookup
  cases hc : state.capSpaces[pid]? with
  | none =>
    refine iff_of_false (by simp) ?_
    exact fun hh => state.not_capAt_of_none hc cap hh.held
  | some cs =>
    dsimp only
    have hi := state.axiomCheck_ok_iff_holds hc hr slot (some .Endpoint) now
    cases hch : axiomCheck cs slot required (some .Endpoint) now with
    | error =>
      refine iff_of_false (by simp) ?_
      intro hh
      have hk := (hi cap).mpr ⟨hh.toHolds, fun _ he => by cases he; exact hh.type⟩
      rw [hch] at hk
      cases hk
    | ok found =>
      obtain ⟨hh, ht⟩ := (hi found).mp hch
      dsimp only
      cases hg : state.endpoints[found.objectId]? with
      | none =>
        simp
        intro ho
        have hs : found = cap := some.inj (hh.held.symm.trans ho.held)
        rw [hs] at hg
        have hgo : state.endpoints[cap.objectId]? = some ep := ho.found
        rw [hg] at hgo
        cases hgo
      | some =>
        simp
        constructor
        · rintro ⟨rfl, rfl⟩
          exact ⟨hh, ht _ rfl, hg⟩
        · intro ho
          have hs : found = cap := some.inj (hh.held.symm.trans ho.held)
          rw [hs] at hg ⊢
          have hgo : state.endpoints[cap.objectId]? = some ep := ho.found
          rw [hg] at hgo
          exact ⟨rfl, some.inj hgo⟩

lemma not_holds_of_lookup_error (hr : Asks required right)
    (he : state.lookup pid slot required now = .error e) :
    ¬ state.view.HoldsEndpoint pid slot now right cap ep := by
  intro hh
  rw [← state.lookup_ok_iff hr, he] at hh
  cases hh

section

variable (pid : ProcessId) (slot : CapSlot) (tag : UInt32) (data : List UInt8) (now : UInt64)

lemma stepSend_eq (hs : data.length ≤ MAX_MESSAGE_SIZE) :
    state.stepSend pid slot tag data now =
      match state.lookup pid slot writeOnly now with
      | .error e => state.refuse e
      | .ok (cap, ep) =>
        ⟨{ state with
            endpoints := state.endpoints.insert cap.objectId (ep.enqueue ⟨pid, tag, data, []⟩)
            processes := state.processes.modify pid fun proc =>
              { proc with metrics := { proc.metrics with
                  ipcSent := proc.metrics.ipcSent + 1
                  ipcBytesSent := proc.metrics.ipcBytesSent + UInt64.ofNat data.length } }
            totalIpcCount := state.totalIpcCount + 1 },
          .Ok 0, [.new (.IpcSent pid cap.objectId tag data.length) now]⟩ := by
  unfold stepSend lookup
  rw [if_neg (Nat.not_lt.mpr hs)]
  cases state.capSpaces[pid]? with
  | none => rfl
  | some cs =>
    dsimp only
    cases axiomCheck cs slot writeOnly (some .Endpoint) now with
    | error => rfl
    | ok cap =>
      dsimp only
      cases state.endpoints[cap.objectId]? with
      | none | some => rfl

lemma stepSend_cases :
    (∃ e, ¬ state.view.Permits pid now (.Send slot tag data) ∧
      state.stepSend pid slot tag data now = state.refuse e) ∨
    (∃ cap ep state', data.length ≤ MAX_MESSAGE_SIZE ∧
      state.view.HoldsEndpoint pid slot now write cap ep ∧
      state.stepSend pid slot tag data now =
        ⟨state', .Ok 0, [.new (.IpcSent pid cap.objectId tag data.length) now]⟩ ∧
      state'.view = state.view.putEndpoint cap.objectId (ep.enqueue ⟨pid, tag, data, []⟩)) := by
  by_cases hs : data.length ≤ MAX_MESSAGE_SIZE
  · rw [state.stepSend_eq pid slot tag data now hs]
    cases hl : state.lookup pid slot writeOnly now with
    | error e =>
      refine .inl ⟨e, ?_, rfl⟩
      rintro ⟨-, cap, ep, hh⟩
      exact state.not_holds_of_lookup_error asks_writeOnly hl hh
    | ok found =>
      obtain ⟨cap, ep⟩ := found
      refine .inr ⟨cap, ep, _, hs, ?_, rfl, ?_⟩
      · exact (state.lookup_ok_iff asks_writeOnly ..).mp hl
      · simp only [view, putEndpoint]
        rw [map_modify_of_same]
        exact fun _ => rfl
  · refine .inl ⟨.MessageTooLarge, fun hp => hs hp.1, ?_⟩
    unfold stepSend
    rw [if_pos (Nat.not_le.mp hs)]

lemma stepReceive_eq :
    state.stepReceive pid slot now =
      match state.lookup pid slot readOnly now with
      | .error e => state.refuse e
      | .ok (cap, ep) =>
        match ep.pendingMessages.head? with
        | some msg =>
          ⟨{ state with
              endpoints := state.endpoints.insert cap.objectId ep.dequeue.2
              processes := state.processes.modify pid fun proc =>
                { proc with metrics := { proc.metrics with
                    ipcReceived := proc.metrics.ipcReceived + 1
                    ipcBytesReceived :=
                      proc.metrics.ipcBytesReceived + UInt64.ofNat msg.data.length } } },
            .Message msg, []⟩
        | none =>
          ⟨{ state with
              endpoints := state.endpoints.insert cap.objectId ep.dequeue.2 },
            .WouldBlock, []⟩ := by
  unfold stepReceive lookup
  cases state.capSpaces[pid]? with
  | none => rfl
  | some cs =>
    dsimp only
    cases axiomCheck cs slot readOnly (some .Endpoint) now with
    | error => rfl
    | ok cap =>
      dsimp only
      cases state.endpoints[cap.objectId]? with
      | none | some => rfl

lemma stepReceive_step :
    Step pid now state.view (.Receive slot) (state.stepReceive pid slot now).result
      (state.stepReceive pid slot now).state.view := by
  rw [stepReceive_eq]
  cases hl : state.lookup pid slot readOnly now with
  | error e =>
    refine .Refused _ e ?_
    rintro ⟨cap, ep, hh⟩
    exact state.not_holds_of_lookup_error asks_readOnly hl hh
  | ok found =>
    obtain ⟨cap, ep⟩ := found
    have hh := (state.lookup_ok_iff asks_readOnly pid slot now cap ep).mp hl
    dsimp only
    cases he : ep.pendingMessages.head? with
    | none => exact .Empty slot cap ep hh (List.head?_eq_none_iff.mp he)
    | some msg =>
      have ha : state.view.processes =
          (state.processes.modify pid fun proc => { proc with metrics := { proc.metrics with
            ipcReceived := proc.metrics.ipcReceived + 1
            ipcBytesReceived := proc.metrics.ipcBytesReceived +
              UInt64.ofNat msg.data.length } }).map fun _ process => process.view := by
        rw [map_modify_of_same]
        · rfl
        · exact fun _ => rfl
      have hs := @Step.Receive pid now state.view slot cap ep msg hh he
      simp only [putEndpoint, ha] at hs
      exact hs

end

lemma transferredCaps_eq_none_iff (cs : CapabilitySpace) (slots : List CapSlot) :
    transferredCaps cs slots = none ↔ ∃ slot ∈ slots, cs.get slot = none := by
  induction slots with
  | nil => simp [transferredCaps]
  | cons slot _ ih =>
    unfold transferredCaps
    cases hg : cs.get slot with
    | none => simp [hg]
    | some => simp [hg, ih]

section

variable (pid : ProcessId) (slot : CapSlot) (tag : UInt32) (data : List UInt8) (now : UInt64)

lemma stepSendWithCaps_step :
    Step pid now state.view (.SendWithCaps slot tag data slots)
      (state.stepSendWithCaps pid slot tag data slots now).result
      (state.stepSendWithCaps pid slot tag data slots now).state.view := by
  unfold stepSendWithCaps
  by_cases hs : data.length ≤ MAX_MESSAGE_SIZE
  · rw [if_neg (Nat.not_lt.mpr hs)]
    by_cases hc : slots.length ≤ MAX_CAPS_PER_MESSAGE
    · rw [if_neg (Nat.not_lt.mpr hc)]
      cases hcs : state.capSpaces[pid]? with
      | none =>
        refine .Refused _ _ ?_
        rintro ⟨-, -, ⟨cap, ep, hh⟩, -⟩
        exact state.not_capAt_of_none hcs cap hh.held
      | some cs =>
        dsimp only
        have hi := state.axiomCheck_ok_iff_holds hcs asks_writeOnly slot (some .Endpoint) now
        cases hch : axiomCheck cs slot writeOnly (some .Endpoint) now with
        | error =>
          refine .Refused _ _ ?_
          rintro ⟨-, -, ⟨cap, ep, hh⟩, -⟩
          have ho := (hi cap).mpr ⟨hh.toHolds, by rintro _ ⟨⟩; exact hh.type⟩
          rw [hch] at ho
          cases ho
        | ok cap =>
          obtain ⟨hh, hy⟩ := (hi cap).mp hch
          dsimp only
          cases hca : transferredCaps cs slots with
          | none =>
            obtain ⟨missing, hm, hn⟩ := (transferredCaps_eq_none_iff ..).mp hca
            refine .Refused _ _ ?_
            rintro ⟨-, -, -, ha⟩
            obtain ⟨_, hg⟩ := ha missing hm
            rw [view_capSpaces, capAt_of_get hcs, hn] at hg
            cases hg
          | some caps =>
            cases he : state.endpoints[cap.objectId]? with
            | none =>
              refine .Refused _ _ ?_
              rintro ⟨-, -, ⟨other, ep, ht⟩, -⟩
              have hsa := some.inj (hh.held.symm.trans ht.held)
              have hg : state.endpoints[other.objectId]? = some ep := ht.found
              rw [← hsa, he] at hg
              cases hg
            | some ep =>
              exact .SendWithCaps slot tag data slots cap ep cs caps hs
                hc ⟨hh, hy _ rfl, he⟩ hcs hca
    · rw [if_pos (Nat.not_le.mp hc)]
      exact .Refused _ _ fun hp => hc hp.2.1
  · rw [if_pos (Nat.not_le.mp hs)]
    exact .Refused _ _ fun hp => hs hp.1

lemma stepSend_step :
    Step pid now state.view (.Send slot tag data) (state.stepSend pid slot tag data now).result
      (state.stepSend pid slot tag data now).state.view := by
  rcases state.stepSend_cases pid slot tag data now with
    ⟨e, hn, he⟩ | ⟨cap, ep, _, hs, hh, he, hv⟩
  · rw [he]
    exact .Refused _ e hn
  · rw [he]
    rw [hv]
    exact .Send slot tag data cap ep hs hh

lemma stepCall_step :
    Step pid now state.view (.Call slot tag data) (state.stepCall pid slot tag data now).result
      (state.stepCall pid slot tag data now).state.view := by
  unfold stepCall
  rcases state.stepSend_cases pid slot tag data now with
    ⟨e, hn, he⟩ | ⟨cap, ep, _, hs, hh, he, hv⟩
  · rw [he]
    exact .Refused _ e hn
  · rw [he]
    rw [hv]
    exact .Call slot tag data cap ep hs hh

lemma stepExit_step :
    Step pid now state.view (.Exit code) (state.stepExit pid code now).result
      (state.stepExit pid code now).state.view := by
  have hs := @Step.Exit pid now state.view code
  rw [← view_killProcess] at hs
  exact hs

lemma stepKill_step :
    Step pid now state.view (.Kill target) (state.stepKill pid target now).result
      (state.stepKill pid target now).state.view := by
  unfold stepKill
  by_cases hm : target ∈ state.processes
  · rw [if_neg (not_not.mpr hm)]
    rw [view_killProcess]
    exact .Kill target ((state.mem_view_processes ..).mpr hm)
  · rw [if_pos hm]
    exact .Refused _ _ fun hp => hm ((state.mem_view_processes ..).mp hp)

end

lemma not_alive_of_not_processExists (h : (!state.processExists pid) = true) :
    ¬ state.view.Alive pid := by
  intro ha
  rw [(state.processExists_iff).mpr ha] at h
  cases h

lemma alive_of_processExists (h : ¬ (!state.processExists pid) = true) : state.view.Alive pid := by
  rw [← state.processExists_iff]
  simpa using h

variable (pid : ProcessId) (slot : CapSlot) (syscall : Syscall) (perms : Permissions) (now : UInt64)

lemma stepCreateEndpoint_step :
    Step pid now state.view .CreateEndpoint (state.stepCreateEndpoint pid now).result
      (state.stepCreateEndpoint pid now).state.view := by
  unfold stepCreateEndpoint
  by_cases hd : (!state.processExists pid) = true
  · rw [if_pos hd]
    exact .Refused _ _ (state.not_alive_of_not_processExists hd)
  · rw [if_neg hd]
    have ha := state.alive_of_processExists hd
    simp only [allocEndpointId, allocCapId, insertCap]
    cases hc : state.capSpaces[pid]? with
    | none => exact .CreateBare _ ha hc
    | some cs => exact .CreateEndpoint _ cs ha hc

lemma stepCapGrant_step :
    Step pid now state.view (.CapGrant slot toPid perms)
      (state.stepCapGrant pid slot toPid perms now).result
      (state.stepCapGrant pid slot toPid perms now).state.view := by
  unfold stepCapGrant
  cases hc : state.capSpaces[pid]? with
  | none =>
    refine .Refused _ _ ?_
    rintro ⟨-, cap, hh, -⟩
    exact state.not_capAt_of_none hc cap hh.held
  | some cs =>
    dsimp only
    have hi := state.axiomCheck_ok_iff_holds hc asks_grant slot none now
    cases hch : axiomCheck cs slot ⟨false, false, true⟩ none now with
    | error =>
      refine .Refused _ _ ?_
      rintro ⟨-, cap, hh, -⟩
      have ho := (hi cap).mpr ⟨hh, by rintro _ ⟨⟩⟩
      rw [hch] at ho
      cases ho
    | ok source =>
      have hh := ((hi source).mp hch).1
      dsimp only
      by_cases hd : (!state.processExists toPid) = true
      · rw [if_pos hd]
        exact .Refused _ _ fun hp => state.not_alive_of_not_processExists hd hp.1
      · rw [if_neg hd]
        have ha := state.alive_of_processExists hd
        cases hs : perms.isSubsetOf source.permissions with
        | false =>
          refine .Refused _ _ ?_
          rintro ⟨-, _, hot, hb⟩
          rw [← some.inj (hh.held.symm.trans hot.held), hs] at hb
          cases hb
        | true =>
          simp only [allocCapId, insertCap]
          cases ht : state.capSpaces[toPid]? with
          | none => exact .GrantBare slot toPid perms source hh ha hs ht
          | some target => exact .CapGrant slot toPid perms source target hh ha hs ht

lemma stepCapDerive_step :
    Step pid now state.view (.CapDerive slot perms) (state.stepCapDerive pid slot perms now).result
      (state.stepCapDerive pid slot perms now).state.view := by
  unfold stepCapDerive
  cases hc : state.capSpaces[pid]? with
  | none =>
    refine .Refused _ _ ?_
    rintro ⟨cap, hh, -⟩
    exact state.not_capAt_of_none hc cap hh
  | some cs =>
    dsimp only
    have ha : state.view.capSpaces.capAt pid slot = cs.get slot := capAt_of_get hc slot
    cases hg : cs.get slot with
    | none =>
      refine .Refused _ _ ?_
      rintro ⟨cap, hh, -⟩
      rw [ha, hg] at hh
      cases hh
    | some source =>
      dsimp only
      cases hs : perms.isSubsetOf source.permissions with
      | false =>
        refine .Refused _ _ ?_
        rintro ⟨cap, hh, hb⟩
        rw [ha, hg] at hh
        rw [← some.inj hh, hs] at hb
        cases hb
      | true =>
        simp only [allocCapId, insertCap, hc]
        exact .CapDerive slot perms source cs hg hs hc

lemma removeCap_cases :
    ((∀ cap, state.view.capSpaces.capAt pid slot ≠ some cap) ∧
      (state.removeCap pid slot).1 = none ∧ (state.removeCap pid slot).2.view = state.view) ∨
    (∃ cap cs, state.capSpaces[pid]? = some cs ∧ cs.get slot = some cap ∧
      (state.removeCap pid slot).1 = some cap ∧
      (state.removeCap pid slot).2.view = state.view.putSpace pid (cs.remove slot).2) := by
  unfold removeCap
  cases hc : state.capSpaces[pid]? with
  | none => exact .inl ⟨state.not_capAt_of_none hc, rfl, rfl⟩
  | some cs =>
    cases hg : cs.get slot with
    | none =>
      refine .inl ⟨?_, hg, ?_⟩
      · intro cap
        rw [view_capSpaces, capAt_of_get hc, hg]
        simp
      · -- Taking nothing out leaves the map as it was.
        have hs : (cs.remove slot).2 = cs := by
          simp only [CapabilitySpace.remove, erase_of_get_none hg]
        simp only [hs, insert_of_get hc]
    | some cap => exact .inr ⟨cap, cs, rfl, hg, hg, rfl⟩

lemma removeCap_step (syscall : Syscall)
    (hc : syscall = .CapRevoke slot ∨ syscall = .CapDelete slot) :
    Step pid now state.view syscall
      (match state.removeCap pid slot with
        | (some _, state) => (⟨state, .Ok 0, commits⟩ : StepResult)
        | (none, state) => ⟨state, .Err .InvalidCapability, []⟩).result
      (match state.removeCap pid slot with
        | (some _, state) => (⟨state, .Ok 0, commits⟩ : StepResult)
        | (none, state) => ⟨state, .Err .InvalidCapability, []⟩).state.view := by
  rcases state.removeCap_cases pid slot with
    ⟨hn, hr, hv⟩ | ⟨cap, cs, hs, hg, hr, hv⟩
  · generalize state.removeCap pid slot = removal at hr hv
    obtain ⟨removed, after⟩ := removal
    cases hr
    rw [hv]
    refine .Refused _ _ ?_
    rcases hc with rfl | rfl
    · exact fun ⟨cap, hh⟩ => hn cap hh
    · exact fun ⟨cap, hh⟩ => hn cap hh
  · generalize state.removeCap pid slot = removal at hr hv
    obtain ⟨removed, after⟩ := removal
    cases hr
    rw [hv]
    rcases hc with rfl | rfl
    · exact .CapRevoke slot cap cs hs hg
    · exact .CapDelete slot cap cs hs hg

lemma stepCapInspect_state : (state.stepCapInspect pid slot).state = state := by
  unfold stepCapInspect
  cases state.capSpaces[pid]? with
  | none => rfl
  | some cs =>
    dsimp only
    cases cs.get slot with
    | none | some => rfl

lemma dispatch_step :
    Step pid now state.view syscall (state.dispatch pid syscall now).result
      (state.dispatch pid syscall now).state.view := by
  cases syscall with
  | CreateEndpoint => exact state.stepCreateEndpoint_step ..
  | Send => exact state.stepSend_step ..
  | Call => exact state.stepCall_step ..
  | SendWithCaps => exact state.stepSendWithCaps_step ..
  | Receive => exact state.stepReceive_step ..
  | CapGrant => exact state.stepCapGrant_step ..
  | CapDerive => exact state.stepCapDerive_step ..
  | CapRevoke => exact state.removeCap_step pid _ now _ (.inl rfl)
  | CapDelete => exact state.removeCap_step pid _ now _ (.inr rfl)
  | Exit => exact state.stepExit_step ..
  | Kill => exact state.stepKill_step ..
  | CapInspect slot =>
    simp only [dispatch]
    rw [state.stepCapInspect_state pid slot]
    exact .Query _ _ trivial
  | Debug | ListCaps | ListProcesses | GetTime | Yield => exact .Query _ _ trivial

lemma step_step :
    Step pid now state.view syscall (state.step pid syscall now).result
      (state.step pid syscall now).state.view := by
  have hs := (state.updateSyscallMetrics pid now).dispatch_step pid syscall now
  rwa [view_updateSyscallMetrics] at hs

end KernelState

end ZeroOS.Core
