import ZeroOS.Core.Correspondence

/-!
The pure core as a model of the kernel.
-/

namespace ZeroOS

open KernelCore CapSpaces Permissions Option EndpointView List Outcome BTreeMap

inductive OutcomeClass where
  | Success
  | WouldBlock
  | Error
deriving DecidableEq

def SyscallResult.outcomeClass : SyscallResult → OutcomeClass
  | .WouldBlock => .WouldBlock
  | .Err _ => .Error
  | _ => .Success

def Core.SyscallResult.outcomeClass : Core.SyscallResult → OutcomeClass
  | .WouldBlock => .WouldBlock
  | .Err _ => .Error
  | _ => .Success

namespace Core

lemma success_ne_error : OutcomeClass.Success ≠ .Error := by decide

-- The calls on which the two agree. Where a handler of the kernel checks more than the core, or
-- less, or does something else with the same arguments, the call must be one on which that does
-- not show.
def Compatible (core : StateView) (kernel : KernelView) (pid : ProcessId) (now : UInt64) :
    Syscall → Prop
  -- The kernel asks for a right to kill and drops the target with its space and endpoints.
  | .Kill target =>
    target ∈ core.processes → target ∈ kernel.processes ∧
      (pid = 1 ∨ kernel.HoldsProcess pid target) ∧
      (∀ slot, core.capSpaces.capAt target slot = none) ∧
      ∀ (eid : EndpointId) endpoint, core.endpoints[eid]? = some endpoint →
        endpoint.owner ≠ target
  -- The kernel lets a process create endpoints after its exit.
  | .CreateEndpoint => pid ∈ kernel.processes → core.Alive pid
  -- The kernel takes messages of any size.
  | .Send slot _ data | .Call slot _ data =>
    (∃ cap endpoint, core.HoldsEndpoint pid slot now Permissions.write cap endpoint) →
      data.length ≤ MAX_MESSAGE_SIZE
  -- The limits differ, and the kernel moves the capabilities where the core copies them.
  | .SendWithCaps slot _ data capSlots =>
    data.length ≤ ZeroOS.MAX_MESSAGE_SIZE → capSlots.length ≤ ZeroOS.MAX_CAPS_PER_MESSAGE →
      (∃ cap endpoint, core.HoldsEndpoint pid slot now Permissions.write cap endpoint) →
      (∀ other ∈ capSlots, ∃ cap, core.capSpaces.capAt pid other = some cap) →
      data.length ≤ MAX_MESSAGE_SIZE ∧ capSlots = []
  -- The kernel grants to any process with a space, and cuts the permissions down.
  | .CapGrant slot toPid perms =>
    ∀ source, core.Holds pid slot now Permissions.grant source →
      core.Alive toPid ∧ perms.isSubsetOf source.permissions = true
  | .CapDerive slot perms =>
    ∀ source, core.capSpaces.capAt pid slot = some source →
      perms.isSubsetOf source.permissions = true
  -- The kernel asks for the grant right.
  | .CapRevoke slot =>
    ∀ cap, core.capSpaces.capAt pid slot = some cap → cap.permissions.grant = true
  | _ => True

-- How a call came out on both sides.
structure Verdict (compatible : Prop) (own other : OutcomeClass) (core : StateView)
    (kernel : KernelView) : Prop where
  agrees : compatible → own = other ∧ Corresponds core kernel
  differs : own = other → Matches core kernel → core.nextCapId = kernel.nextCapId → compatible

namespace Verdict

variable {compatible : Prop} {own other : OutcomeClass} {core : StateView} {kernel : KernelView}

lemma agree (hc : compatible) (hl : own = other) (ho : Corresponds core kernel) :
    Verdict compatible own other core kernel :=
  ⟨fun _ => ⟨hl, ho⟩, fun _ _ _ => hc⟩

lemma differ (hn : ¬ compatible) (hd : own = other → ¬ Matches core kernel ∨
    core.nextCapId ≠ kernel.nextCapId) : Verdict compatible own other core kernel := by
  refine ⟨fun h => absurd h hn, ?_⟩
  intro hc hm hi
  rcases hd hc with h | h
  · exact absurd hm h
  · exact absurd hi h

lemma differ_class (hn : ¬ compatible) (hc : own ≠ other) :
    Verdict compatible own other core kernel :=
  differ hn fun h => absurd h hc

end Verdict

-- The verdict on a call that the core answers with `result`.
abbrev Judged (core : StateView) (kernel : KernelCore) (pid : ProcessId) (now : UInt64)
    (syscall : Syscall) (result : SyscallResult) (core' : StateView) : Prop :=
  Verdict (Compatible core kernel.view pid now syscall) result.outcomeClass
    (kernel.dispatchSyscall pid syscall now).result.outcomeClass core'
    (kernel.dispatchSyscall pid syscall now).kernel.view

section Calls

variable {core core' : StateView} {kernel : KernelCore} {pid : ProcessId} {now : UInt64}
  {result : SyscallResult}

lemma isExpired_of_lasting {cap : Capability} (hz : cap.expiresAt = 0) (now : UInt64) :
    cap.isExpired now = false := by
  simp [Capability.isExpired, hz]

section

variable (h : Corresponds core kernel.view)

include h

lemma exit_verdict (hs : Step pid now core (.Exit code) result core') :
    Judged core kernel pid now (.Exit code) result core' := by
  dsimp only [Judged, dispatchSyscall]
  rw [view_handleExit]
  cases hs with
  | Refused _ _ hn => exact absurd trivial hn
  | Query _ _ hq => exact hq.elim
  | Exit => exact .agree trivial rfl h.exit

lemma not_matches_of_kill (hl : ¬ ((∀ slot, core.capSpaces.capAt target slot = none) ∧
      ∀ (eid : EndpointId) ep, core.endpoints[eid]? = some ep → ep.owner ≠ target)) :
    ¬ Matches (core.markZombie target) (kernel.view.dropProcess target) := by
  intro hm
  refine hl ⟨?_, ?_⟩
  · intro slot
    have hs := hm.spaces target slot
    rw [show (kernel.view.dropProcess target).capSpaces.capAt target slot = _ from
      capAt_erase, if_pos rfl] at hs
    exact map_eq_none_iff.mp hs
  · intro eid ep hg ho
    obtain ⟨other, ht, hu⟩ := h.foundBy hg
    have hs := hm.endpoints eid
    rw [show (core.markZombie target).endpoints[eid]? = core.endpoints[eid]? from rfl, hg,
      KernelView.dropProcess, BTreeMap.get_filter, ht] at hs
    have hd : (other.owner != target) = false := by
      rw [← show ep.owner = other.owner from congrArg Prod.fst hu, ho]
      exact bne_self_eq_false ..
    rw [filter_some, hd] at hs
    cases hs

lemma kill_verdict (hs : Step pid now core (.Kill target) result core') :
    Judged core kernel pid now (.Kill target) result core' := by
  have hk : target ∈ kernel.view.processes → target ∈ core.processes := by
    intro hm
    obtain ⟨process, hg⟩ := (mem_iff ..).mp hm
    obtain ⟨entry, hn, -⟩ := h.states target process hg
    exact (mem_iff ..).mpr ⟨entry, hn⟩
  dsimp only [Judged, dispatchSyscall, handleKill]
  rcases kernel.killProcessWithCapCheck_cases pid target now with
    ⟨e, hno, he⟩ | ⟨hm, hp, he⟩
  · rw [he]
    cases hs with
    | Refused _ _ hu => exact .agree (fun hm => absurd hm hu) rfl h
    | Query _ _ hq => exact hq.elim
    | Kill _ ht =>
      refine .differ_class ?_ success_ne_error
      intro ho
      obtain ⟨hr, hi, -⟩ := ho ht
      exact hno ⟨(kernel.mem_view_processes ..).mp hr,
        hi.imp_right (kernel.hasKillPermission_iff ..).mpr⟩
  · rw [he]
    dsimp only [toSyscall]
    rw [view_killProcess]
    have hr := (kernel.mem_view_processes target).mpr hm
    cases hs with
    | Refused _ _ hu => exact absurd (hk hr) hu
    | Query _ _ hq => exact hq.elim
    | Kill _ ht =>
      by_cases hc : (∀ slot, core.capSpaces.capAt target slot = none) ∧
          ∀ (eid : EndpointId) ep, core.endpoints[eid]? = some ep → ep.owner ≠ target
      · have hi := hp.imp_right (kernel.hasKillPermission_iff pid).mp
        exact .agree (fun _ => ⟨hr, hi, hc⟩) rfl (h.kill hc.1 hc.2)
      · refine .differ ?_ fun _ => .inl (not_matches_of_kill h hc)
        exact fun ho => hc (ho ht).2.2

lemma create_verdict (hs : Step pid now core .CreateEndpoint result core') :
    Judged core kernel pid now .CreateEndpoint result core' := by
  dsimp only [Judged, dispatchSyscall, handleCreateEndpoint]
  rcases kernel.createEndpoint_cases pid now with
    ⟨hu, he⟩ | ⟨hr, hn, -⟩ | ⟨other, hr, ho, he⟩
  · rw [he]
    have hu : pid ∉ kernel.view.processes := fun hm => hu ((kernel.mem_view_processes pid).mp hm)
    have hd : ¬ core.Alive pid := by
      rw [h.alive_iff]
      rintro ⟨process, hg, -⟩
      exact hu ((mem_iff ..).mpr ⟨process, hg⟩)
    cases hs with
    | Refused => exact .agree (fun hm => absurd hm hu) rfl h
    | Query _ _ hq => exact hq.elim
    | CreateEndpoint _ _ ha | CreateBare _ ha => exact absurd ha hd
  · obtain ⟨-, other, -, ho, -⟩ := h.spaced pid ((kernel.mem_view_processes pid).mpr hr)
    rw [view_capSpaces, hn] at ho
    cases ho
  · have hm := (kernel.mem_view_processes pid).mpr hr
    rw [he]
    dsimp only [toSyscall]
    rw [view_installCap, view_openEndpoint]
    cases hs with
    | Refused _ _ hd =>
      refine .differ_class ?_ success_ne_error.symm
      intro hc
      exact hd (hc hm)
    | Query _ _ hq => exact hq.elim
    | CreateEndpoint _ _ ha hw =>
      have hca : (ownerCap core.nextCapId core.nextEndpointId).ungenerated =
          (Capability.endpoint kernel.nextCapId kernel.nextEndpointId full).ungenerated := by
        rw [h.nextCapId, h.nextEndpointId]
        rfl
      exact .agree (fun _ => ha) rfl ((h.addEndpoint).burnCapId.insertCap hw ho hca rfl).1
    | CreateBare _ _ hn =>
      obtain ⟨_, -, hw, -⟩ := h.spaced pid hm
      rw [hn] at hw
      cases hw

-- What a use of an endpoint is checked against is the same on both sides.

lemma Corresponds.toKernel (hh : core.HoldsEndpoint pid slot now right cap own) :
    ∃ generation ep, kernel.capSpaces.capAt pid slot = some { cap with generation } ∧
      kernel.endpoints[cap.objectId]? = some ep ∧ own.summary = ep.view.summary := by
  obtain ⟨generation, ho⟩ := h.held hh.held
  obtain ⟨_, hg, hs⟩ := h.foundBy hh.found
  rw [view_endpoints_get] at hg
  obtain ⟨ep, hgo, rfl⟩ := map_eq_some_iff.mp hg
  exact ⟨generation, ep, ho, hgo, hs⟩

lemma Corresponds.ofKernel (hh : kernel.capSpaces.capAt pid slot = some other)
    (ht : other.objectType = .Endpoint) (hr : right other.permissions = true)
    (hg : kernel.endpoints[other.objectId]? = some ep) (now : UInt64) :
    ∃ cap own, core.HoldsEndpoint pid slot now right cap own ∧ cap.objectId = other.objectId ∧
      own.summary = ep.view.summary := by
  obtain ⟨_, hc⟩ := h.heldBy hh
  obtain ⟨own, ho, hs⟩ := h.found (kernel.view_endpoints_of_get hg)
  have hl := isExpired_of_lasting (h.lasting pid slot _ hc) now
  exact ⟨_, own, ⟨⟨hc, hr, hl⟩, ht, ho⟩, rfl, hs⟩

end

lemma StateView.HoldsEndpoint.unique (hh : core.HoldsEndpoint pid slot now right cap own)
    (ho : core.HoldsEndpoint pid slot now right other ep) : cap = other ∧ own = ep := by
  have hc : cap = other := some.inj (hh.held.symm.trans ho.held)
  refine ⟨hc, ?_⟩
  subst hc
  exact some.inj (hh.found.symm.trans ho.found)

lemma summary_enqueue {own : Endpoint} {ep : ZeroOS.Endpoint} (hs : own.summary = ep.view.summary) :
    (own.enqueue ⟨pid, tag, data, caps⟩).summary =
      summary { ep.view with
        queue := ep.pendingMessages ++ [⟨pid, tag, data, moved⟩] } := by
  have ho : own.owner = ep.owner := congrArg Prod.fst hs
  have hq : own.pendingMessages.map (fun msg => (msg.sender, msg.tag, msg.data)) =
      ep.pendingMessages.map fun msg => (msg.fromPid, msg.tag, msg.data) :=
    congrArg Prod.snd hs
  unfold Endpoint.summary summary Endpoint.enqueue
  simp only [map_append, hq]
  exact congrArg (·, _) ho

lemma ipcSend_verdict (h : Corresponds core kernel.view) {slot : CapSlot} {tag : UInt32}
    {data : List UInt8} {own : OutcomeClass} {onOk : Unit → ZeroOS.SyscallResult}
    (hk : (onOk ()).outcomeClass ≠ .Error)
    (hc : (¬ core.Permits pid now (.Send slot tag data) ∧ own = .Error ∧ core' = core) ∨
      ∃ cap ep, data.length ≤ MAX_MESSAGE_SIZE ∧ core.HoldsEndpoint pid slot now write cap ep ∧
        own = (onOk ()).outcomeClass ∧
        core' = core.putEndpoint cap.objectId (ep.enqueue ⟨pid, tag, data, []⟩)) :
    Verdict (Compatible core kernel.view pid now (.Send slot tag data)) own
      (toSyscall ⟨(kernel.ipcSend pid slot tag data now).1,
        (kernel.ipcSend pid slot tag data now).2.1, []⟩ onOk).result.outcomeClass core'
      (kernel.ipcSend pid slot tag data now).1.view := by
  rcases kernel.ipcSend_cases pid slot tag data now with
    ⟨e, hno, he⟩ | ⟨_, ep, _, hv, hg, he, hi⟩
  · have hn : ∀ cap found, ¬ core.HoldsEndpoint pid slot now write cap found := by
      intro cap found hh
      obtain ⟨_, ep, ho, hgo, -⟩ := h.toKernel hh
      have hm := hno cap.objectId ((kernel.validateSendCap_ok_iff ..).mpr
        ⟨_, ho, hh.type, hh.right, hh.live, rfl⟩)
      rw [hgo] at hm
      cases hm
    rw [he]
    rcases hc with ⟨-, rfl, rfl⟩ | ⟨cap, found, -, hh, -⟩
    · exact .agree (fun ⟨cap, found, hh⟩ => absurd hh (hn cap _)) rfl h
    · exact absurd hh (hn cap _)
  · obtain ⟨_, ho, ht, hw, -, rfl⟩ := (kernel.validateSendCap_ok_iff ..).mp hv
    obtain ⟨cap, found, hh, hb, hs⟩ := h.ofKernel ho ht hw hg now
    rw [he]
    rcases hc with ⟨hr, rfl, rfl⟩ | ⟨_, _, hsi, ha, rfl, rfl⟩
    · refine .differ_class ?_ (Ne.symm hk)
      exact fun hcm => hr ⟨hcm ⟨cap, found, hh⟩, cap, found, hh⟩
    · obtain ⟨rfl, rfl⟩ := ha.unique hh
      refine .agree (fun _ => hsi) rfl ?_
      rw [hi, hb]
      exact h.setQueue (kernel.view_endpoints_of_get hg) (summary_enqueue hs)

lemma send_verdict (h : Corresponds core kernel.view)
    (hs : Step pid now core (.Send slot tag data) result core') :
    Judged core kernel pid now (.Send slot tag data) result core' := by
  refine @ipcSend_verdict core core' kernel pid now h slot tag data _ _ success_ne_error ?_
  cases hs with
  | Refused _ _ hn => exact .inl ⟨hn, rfl, rfl⟩
  | Query _ _ hq => exact hq.elim
  | Send _ _ _ cap ep hi hh => exact .inr ⟨cap, ep, hi, hh, rfl, rfl⟩

lemma call_verdict (h : Corresponds core kernel.view)
    (hs : Step pid now core (.Call slot tag data) result core') :
    Judged core kernel pid now (.Call slot tag data) result core' := by
  refine @ipcSend_verdict core core' kernel pid now h slot tag data _ _ (by decide) ?_
  cases hs with
  | Refused _ _ hn => exact .inl ⟨hn, rfl, rfl⟩
  | Query _ _ hq => exact hq.elim
  | Call _ _ _ cap ep hi hh => exact .inr ⟨cap, ep, hi, hh, rfl, rfl⟩

lemma get_takeAll {cs : CapabilitySpace} (h : slot ∈ slots ∨ cs.get slot = none) :
    (cs.takeAll slots).1.get slot = none := by
  induction slots generalizing cs with
  | nil => exact h.resolve_left not_mem_nil
  | cons first rest ih =>
    have hr : (cs.takeAll (first :: rest)).1 = ((cs.remove first).2.takeAll rest).1 := by
      rw [CapabilitySpace.takeAll]
      cases cs.get first <;> rfl
    rw [hr]
    apply ih
    rw [CapabilitySpace.get_remove]
    rcases h with hm | hn
    · rcases mem_cons.mp hm with rfl | hi
      · exact .inr (if_pos rfl)
      · exact .inl hi
    · rw [hn, ite_self]
      exact .inr rfl

lemma validateMessageLimits_ok_iff :
    validateMessageLimits dataLen capCount = .ok () ↔
      dataLen ≤ ZeroOS.MAX_MESSAGE_SIZE ∧ capCount ≤ ZeroOS.MAX_CAPS_PER_MESSAGE := by
  unfold validateMessageLimits
  split_ifs with hs hc
  · simp [Nat.not_le.mpr hs]
  · simp [Nat.not_le.mpr hc]
  · simp [Nat.not_lt.mp hs, Nat.not_lt.mp hc]

lemma sendWithCaps_verdict (h : Corresponds core kernel.view)
    (hst : Step pid now core (.SendWithCaps slot tag data slots) result core') :
    Judged core kernel pid now (.SendWithCaps slot tag data slots) result core' := by
  dsimp only [Judged, dispatchSyscall, handleSendWithCaps]
  rcases kernel.ipcSendWithCaps_cases pid slot tag data slots now with
    ⟨e, heq⟩ | ⟨_, ep, other, kernel', hli, hva, hge, hot, he, heq, hvi⟩
  · -- Whatever the core accepts has passed the checks of the kernel.
    have hre : data.length ≤ ZeroOS.MAX_MESSAGE_SIZE → slots.length ≤ ZeroOS.MAX_CAPS_PER_MESSAGE →
        (∃ cap found, core.HoldsEndpoint pid slot now write cap found) →
        ¬ ∀ other ∈ slots, ∃ cap, core.capSpaces.capAt pid other = some cap := by
      rintro hsi hcn ⟨cap, found, hhe⟩ hca
      obtain ⟨_, ep, hcp, hgo, -⟩ := h.toKernel hhe
      obtain ⟨other, hot, -⟩ := capAt_eq_some_iff.mp hcp
      have he : kernel.validateCapsExist pid slots = .ok () := by
        refine (kernel.validateCapsExist_ok_iff ..).mpr ⟨other, hot, ?_⟩
        intro filled hfi
        obtain ⟨carried, hcr⟩ := hca filled hfi
        obtain ⟨_, hsa⟩ := h.held hcr
        rw [view_capSpaces, capAt_of_get hot] at hsa
        rw [hsa]
        rfl
      obtain ⟨kernel', hse, -⟩ := kernel.ipcSendWithCaps_of_valid tag now
        (validateMessageLimits_ok_iff.mpr ⟨hsi, hcn⟩)
        ((kernel.validateSendCapBasic_ok_iff ..).mpr ⟨_, hcp, hhe.type, hhe.right, rfl⟩)
        hgo hot he
      rw [heq] at hse
      cases hse
    rw [heq]
    cases hst with
    | Refused =>
      refine .agree ?_ rfl h
      intro hsi hcn hhe hca
      exact absurd hca (hre hsi hcn hhe)
    | Query _ _ hqr => exact hqr.elim
    | SendWithCaps _ _ _ _ cap found cs _ hsi hcn hhe hcs hca =>
      refine absurd ?_ (hre (Nat.le_trans hsi (by decide)) (Nat.le_trans hcn (by decide))
        ⟨cap, found, hhe⟩)
      intro filled hfi
      by_contra hnn
      have hmi := (KernelState.transferredCaps_eq_none_iff cs slots).mpr ⟨filled, hfi, ?_⟩
      · rw [hca] at hmi
        cases hmi
      · rw [← capAt_of_get hcs]
        exact eq_none_iff_forall_ne_some.mpr fun held hso => hnn ⟨held, hso⟩
  · obtain ⟨hsi, hcn⟩ := validateMessageLimits_ok_iff.mp hli
    obtain ⟨held, hhe, hty, hwr, rfl⟩ := (kernel.validateSendCapBasic_ok_iff ..).mp hva
    obtain ⟨cap, found, hha, hob, hsu⟩ := h.ofKernel hhe hty hwr hge now
    have hca : ∀ filled ∈ slots, ∃ cap, core.capSpaces.capAt pid filled = some cap := by
      intro filled hfi
      obtain ⟨cs, hcs, ha⟩ := (kernel.validateCapsExist_ok_iff ..).mp he
      obtain ⟨carried, hcr⟩ := isSome_iff_exists.mp (ha filled hfi)
      obtain ⟨_, hsa⟩ := h.heldBy ((capAt_of_get hcs filled).trans hcr)
      exact ⟨_, hsa⟩
    rw [heq]
    dsimp only [toSyscall]
    rw [hvi]
    cases hst with
    | Refused _ _ hno =>
      refine .differ_class ?_ success_ne_error.symm
      intro hco
      obtain ⟨hsm, rfl⟩ := hco hsi hcn ⟨cap, found, hha⟩ hca
      exact hno ⟨hsm, Nat.zero_le _, ⟨cap, found, hha⟩, hca⟩
    | Query _ _ hqr => exact hqr.elim
    | SendWithCaps _ _ _ _ used target _ caps hsm _ hus =>
      obtain ⟨rfl, rfl⟩ := hus.unique hha
      cases slots with
      | nil =>
        refine .agree (fun _ _ _ _ => ⟨hsm, rfl⟩) rfl ?_
        rw [putSpace_self hot, hob]
        exact h.setQueue (kernel.view_endpoints_of_get hge) (summary_enqueue hsu)
      | cons first =>
        refine .differ ?_ fun _ => .inl ?_
        · intro hco
          obtain ⟨-, hni⟩ := hco hsi hcn ⟨used, target, hha⟩ hca
          cases hni
        · -- The first of the capabilities has left the kernel's space.
          intro hma
          obtain ⟨carried, hcr⟩ := hca first mem_cons_self
          have hsa := hma.spaces pid first
          have hke : (core.putEndpoint used.objectId (target.enqueue
              ⟨pid, tag, data, caps⟩)).capSpaces.capAt pid first = some carried := hcr
          rw [hke, KernelView.setQueue, KernelView.putSpace, capAt_insert,
            if_pos rfl, get_takeAll (.inl mem_cons_self)] at hsa
          cases hsa

lemma summary_dequeue {own : Endpoint} {ep : ZeroOS.Endpoint} (hs : own.summary = ep.view.summary) :
    own.dequeue.2.summary = summary { ep.view with queue := ep.pendingMessages.tail } := by
  have ho : own.owner = ep.owner := congrArg Prod.fst hs
  have hq : own.pendingMessages.map (fun msg => (msg.sender, msg.tag, msg.data)) =
      ep.pendingMessages.map fun msg => (msg.fromPid, msg.tag, msg.data) :=
    congrArg Prod.snd hs
  unfold Endpoint.summary summary Endpoint.dequeue
  simp only [map_tail, hq]
  exact congrArg (·, _) ho

lemma pending_length_of_summary {own : Endpoint} {ep : ZeroOS.Endpoint}
    (hs : own.summary = ep.view.summary) :
    own.pendingMessages.length = ep.pendingMessages.length := by
  have hl := congrArg length (congrArg Prod.snd hs)
  simpa [Endpoint.summary, summary, ZeroOS.Endpoint.view] using hl

lemma Corresponds.readable (h : Corresponds core kernel.view)
    (hv : kernel.validateReceiveCap pid slot now = .ok eid)
    (hg : kernel.endpoints[eid]? = some ep) :
    ∃ cap own, core.HoldsEndpoint pid slot now read cap own ∧ cap.objectId = eid ∧
      own.summary = ep.view.summary := by
  obtain ⟨_, hh, ht, hr, -, rfl⟩ := (kernel.validateReceiveCap_ok_iff ..).mp hv
  exact h.ofKernel hh ht hr hg now

lemma receive_verdict (h : Corresponds core kernel.view)
    (ht : Step pid now core (.Receive slot) result core') :
    Judged core kernel pid now (.Receive slot) result core' := by
  dsimp only [Judged, dispatchSyscall, handleReceive]
  rcases kernel.ipcReceive_cases pid slot now with
    ⟨e, -, he⟩ | ⟨eid, ep, hv, hg, hm, he⟩ |
    ⟨eid, ep, _, _, _, hv, hg, hq, he, hi⟩
  · have hnn : ∀ cap own, ¬ core.HoldsEndpoint pid slot now read cap own := by
      intro cap own hh
      obtain ⟨_, ep, hc, hg, -⟩ := h.toKernel hh
      have hv := (kernel.validateReceiveCap_ok_iff ..).mpr ⟨_, hc, hh.type, hh.right, hh.live, rfl⟩
      simp only [ipcReceive, hv, hg] at he
      split at he <;> cases (Prod.mk.inj he).2
    rw [he]
    cases ht with
    | Refused => exact .agree trivial rfl h
    | Query _ _ hr => exact hr.elim
    | Receive _ cap own _ hh | Empty _ cap own hh => exact absurd hh (hnn cap own)
  · obtain ⟨cap, own, ha, -, hs⟩ := h.readable hv hg
    have hl := pending_length_of_summary hs
    rw [hm] at hl
    rw [he]
    cases ht with
    | Refused _ _ hn => exact absurd ⟨cap, own, ha⟩ hn
    | Query _ _ hr => exact hr.elim
    | Receive _ _ _ _ hh hd =>
      obtain ⟨rfl, rfl⟩ := hh.unique ha
      rw [length_eq_zero_iff.mp hl] at hd
      cases hd
    | Empty _ _ _ hh hnt =>
      refine .agree trivial rfl (h.rewriteEndpoint hh.found ?_)
      simp [Endpoint.summary, Endpoint.dequeue, hnt]
  · obtain ⟨cap, own, ha, rfl, hs⟩ := h.readable hv hg
    have hl := pending_length_of_summary hs
    rw [hq, length_cons] at hl
    have hta := summary_dequeue hs
    rw [hq] at hta
    rw [he]
    dsimp only [toSyscall]
    rw [hi]
    cases ht with
    | Refused _ _ hn => exact absurd ⟨cap, own, ha⟩ hn
    | Query _ _ hr => exact hr.elim
    | Receive _ _ _ _ hh =>
      obtain ⟨rfl, rfl⟩ := hh.unique ha
      exact .agree trivial rfl (h.setQueue (kernel.view_endpoints_of_get hg) hta)
    | Empty _ _ _ hh hnt =>
      obtain ⟨rfl, rfl⟩ := hh.unique ha
      rw [hnt, length_nil] at hl
      omega

lemma attenuate_of_subset (hs : perms.isSubsetOf source = true) :
    attenuatePermissions source perms = perms := by
  obtain ⟨_, _, _⟩ := perms
  simp only [Permissions.isSubsetOf] at hs
  simp only [attenuatePermissions, Permissions.mk.injEq]
  refine ⟨?_, ?_, ?_⟩ <;> grind

lemma child_of_derived {source : Capability} (hs : perms.isSubsetOf source.permissions = true)
    {id : UInt64} :
    (source.child id perms).ungenerated =
      (Capability.derived { source with generation } id
        (attenuatePermissions source.permissions perms)).ungenerated := by
  rw [attenuate_of_subset hs]
  rfl

section

variable (h : Corresponds core kernel.view)

include h

lemma Corresponds.space_of_alive (ha : core.Alive pid) :
    ∃ own other, core.capSpaces[pid]? = some own ∧ kernel.capSpaces[pid]? = some other := by
  obtain ⟨process, hg, -⟩ := (h.alive_iff pid).mp ha
  obtain ⟨own, other, ho, ht, -⟩ := h.spaced pid ((mem_iff ..).mpr ⟨process, hg⟩)
  exact ⟨own, other, ho, ht⟩

lemma grant_verdict (hst : Step pid now core (.CapGrant slot toPid perms) result core') :
    Judged core kernel pid now (.CapGrant slot toPid perms) result core' := by
  -- A grant that the core accepts has a source for the kernel too.
  have hva : ∀ {source}, core.Holds pid slot now grant source →
      ∃ generation, kernel.validateGrantSource pid slot now = .ok { source with generation } := by
    intro source hhe
    obtain ⟨generation, hca⟩ := h.held hhe.held
    exact ⟨generation, (kernel.validateGrantSource_ok_iff ..).mpr ⟨hca, hhe.right, hhe.live⟩⟩
  have hha : ∀ {source}, kernel.validateGrantSource pid slot now = .ok source →
      ∃ generation, core.Holds pid slot now grant { source with generation } := by
    intro source hsr
    obtain ⟨hhe, hgr, hli⟩ := (kernel.validateGrantSource_ok_iff ..).mp hsr
    obtain ⟨generation, hca⟩ := h.heldBy hhe
    exact ⟨generation, hca, hgr, hli⟩
  dsimp only [Judged, dispatchSyscall, handleCapGrant]
  rcases kernel.grantCapability_cases pid slot toPid perms now with
    ⟨e, her, heq⟩ | ⟨source, hsr, hnn, heq⟩ | ⟨source, other, hsr, hot, heq⟩
  · have hno : ∀ source, ¬ core.Holds pid slot now grant source := by
      intro source hhe
      obtain ⟨generation, hok⟩ := hva hhe
      rw [her] at hok
      cases hok
    rw [heq]
    cases hst with
    | Refused => exact .agree (fun source hhe => absurd hhe (hno _)) rfl h
    | Query _ _ hqr => exact hqr.elim
    | CapGrant _ _ _ source _ hhe | GrantBare _ _ _ source hhe => exact absurd hhe (hno _)
  · obtain ⟨generation, hhe⟩ := hha hsr
    have hde : ¬ core.Alive toPid := by
      intro ha
      obtain ⟨-, other, -, hot⟩ := h.space_of_alive ha
      rw [hnn] at hot
      cases hot
    rw [heq]
    cases hst with
    | Refused =>
      -- Both refuse, and the kernel has used up an id.
      refine .differ ?_ fun _ => .inr ?_
      · exact fun hco => hde (hco _ hhe).1
      · rw [h.nextCapId]
        simp [toSyscall]
    | Query _ _ hqr => exact hqr.elim
    | CapGrant _ _ _ _ _ _ ha | GrantBare _ _ _ _ _ ha => exact absurd ha hde
  · obtain ⟨generation, hhe⟩ := hha hsr
    rw [heq]
    cases hst with
    | Refused _ _ hno =>
      refine .differ_class ?_ success_ne_error.symm
      intro hco
      obtain ⟨ha, hsu⟩ := hco _ hhe
      exact hno ⟨ha, _, hhe, hsu⟩
    | Query _ _ hqr => exact hqr.elim
    | CapGrant _ _ _ used _ hus ha hsu how =>
      obtain rfl : used = { source with generation } := some.inj (hus.held.symm.trans hhe.held)
      refine .agree ?_ rfl ?_
      · intro found hgo
        obtain rfl : found = { source with generation } := some.inj (hgo.held.symm.trans hhe.held)
        exact ⟨ha, hsu⟩
      · have hze := h.lasting pid slot _ hhe.held
        rw [h.nextCapId]
        exact (h.burnCapId.insertCap how hot (child_of_derived hsu) hze).1
    | GrantBare _ _ _ _ _ ha _ hnn =>
      obtain ⟨_, -, how, -⟩ := h.space_of_alive ha
      rw [hnn] at how
      cases how

lemma derive_verdict (hs : Step pid now core (.CapDerive slot perms) result core') :
    Judged core kernel pid now (.CapDerive slot perms) result core' := by
  dsimp only [Judged, dispatchSyscall, handleCapDerive]
  rcases kernel.deriveCapability_cases pid slot perms now with
    ⟨e, hr, he⟩ | ⟨source, _, hsr, ht, he⟩
  · have hn : ∀ source, core.capSpaces.capAt pid slot ≠ some source := by
      intro source hh
      obtain ⟨generation, hc⟩ := h.held hh
      have hk := (kernel.validateDeriveSource_ok_iff ..).mpr
        ⟨hc, isExpired_of_lasting (h.lasting pid _ _ hh) now⟩
      rw [hr] at hk
      cases hk
    rw [he]
    cases hs with
    | Refused => exact .agree (fun source hh => absurd hh (hn _)) rfl h
    | Query _ _ hq => exact hq.elim
    | CapDerive _ _ _ _ hg _ ho =>
      exact absurd ((capAt_of_get ho _).trans hg) (hn _)
  · obtain ⟨hh, -⟩ := (kernel.validateDeriveSource_ok_iff ..).mp hsr
    obtain ⟨generation, hc⟩ := h.heldBy hh
    rw [he]
    cases hs with
    | Refused _ _ hn =>
      refine .differ_class ?_ success_ne_error.symm
      exact fun hco => hn ⟨_, hc, hco _ hc⟩
    | Query _ _ hq => exact hq.elim
    | CapDerive _ _ used _ hg hu ho =>
      have hus := (capAt_of_get ho slot).trans hg
      obtain rfl : used = { source with generation } := some.inj (hus.symm.trans hc)
      refine .agree ?_ rfl ?_
      · intro found hgo
        obtain rfl : found = { source with generation } := some.inj (hgo.symm.trans hc)
        exact hu
      · have hz := h.lasting pid slot _ hc
        rw [h.nextCapId]
        exact (h.burnCapId.insertCap ho ht (child_of_derived hu) hz).1

lemma revoke_verdict (hs : Step pid now core (.CapRevoke slot) result core') :
    Judged core kernel pid now (.CapRevoke slot) result core' := by
  dsimp only [Judged, dispatchSyscall, handleCapRevoke, revokeCapability]
  cases hv : kernel.validateRevokePermission pid slot now with
  | error =>
    have hno : ∀ cap, core.capSpaces.capAt pid slot = some cap → cap.permissions.grant ≠ true := by
      intro cap hh hg
      obtain ⟨generation, hc⟩ := h.held hh
      have hk := (kernel.validateRevokePermission_ok_iff pid slot now cap.id).mpr
        ⟨_, hc, hg, isExpired_of_lasting (h.lasting pid _ cap hh) now, rfl⟩
      rw [hv] at hk
      cases hk
    cases hs with
    | Refused _ _ hn => exact .agree (fun cap hh => absurd ⟨cap, hh⟩ hn) rfl h
    | Query _ _ hq => exact hq.elim
    | CapRevoke _ cap _ ho he =>
      have hh := (capAt_of_get ho slot).trans he
      refine .differ_class ?_ success_ne_error
      exact fun hco => hno cap hh (hco cap hh)
  | ok =>
    obtain ⟨_, hh, hg, -⟩ := (kernel.validateRevokePermission_ok_iff ..).mp hv
    obtain ⟨_, ht, -⟩ := capAt_eq_some_iff.mp hh
    obtain ⟨generation, hc⟩ := h.heldBy hh
    rw [kernel.removeSlot_of_get ht]
    cases hs with
    | Refused _ _ hn => exact absurd ⟨_, hc⟩ hn
    | Query _ _ hq => exact hq.elim
    | CapRevoke _ _ _ ho =>
      refine .agree ?_ rfl (h.removeCap ho ht)
      intro found hgo
      rw [some.inj (hgo.symm.trans hc)]
      exact hg

lemma delete_verdict (hs : Step pid now core (.CapDelete slot) result core') :
    Judged core kernel pid now (.CapDelete slot) result core' := by
  dsimp only [Judged, dispatchSyscall, handleCapDelete]
  rcases kernel.deleteCapability_cases pid slot now with
    ⟨e, hn, he⟩ | ⟨_, _, ht, hg, he⟩
  · rw [he]
    cases hs with
    | Refused => exact .agree trivial rfl h
    | Query _ _ hq => exact hq.elim
    | CapDelete _ _ _ ho hg =>
      obtain ⟨generation, hh⟩ := h.held ((capAt_of_get ho slot).trans hg)
      rw [view_capSpaces, hn] at hh
      cases hh
  · rw [he]
    cases hs with
    | Refused _ _ hno =>
      obtain ⟨generation, hh⟩ := h.heldBy ((capAt_of_get ht slot).trans hg)
      exact absurd ⟨_, hh⟩ hno
    | Query _ _ hq => exact hq.elim
    | CapDelete _ _ _ ho => exact .agree trivial rfl (h.removeCap ho ht)

end

end Calls

lemma KernelState.stepCapInspect_class (state : KernelState) :
    (state.stepCapInspect pid slot).result.outcomeClass =
      if (state.capSpaces.capAt pid slot).isSome then .Success else .Error := by
  unfold stepCapInspect capAt
  cases state.capSpaces[pid]? with
  | none => rfl
  | some cs => cases hg : cs.get slot <;> simp [hg] <;> rfl

lemma handleCapInspect_class {kernel : KernelCore} :
    (kernel.handleCapInspect pid slot).result.outcomeClass =
      if (kernel.capSpaces.capAt pid slot).isSome then .Success else .Error := by
  unfold handleCapInspect capAt
  cases kernel.capSpaces[pid]? with
  | none => rfl
  | some cs => cases hg : cs.get slot <;> simp [hg] <;> rfl

lemma inspect_verdict {state : KernelState} {kernel : KernelCore}
    (h : Corresponds state.view kernel.view) :
    Judged state.view kernel pid now (.CapInspect slot) (state.stepCapInspect pid slot).result
      (state.stepCapInspect pid slot).state.view := by
  dsimp only [Judged, dispatchSyscall]
  rw [state.stepCapInspect_state]
  refine .agree trivial ?_ h
  have hs := congrArg isSome (h.spaces pid slot)
  rw [isSome_map, isSome_map] at hs
  rw [state.stepCapInspect_class, handleCapInspect_class,
    show (state.capSpaces.capAt pid slot).isSome = (kernel.capSpaces.capAt pid slot).isSome from hs]

lemma dispatch_verdict {state : KernelState} {kernel : KernelCore}
    (h : Corresponds state.view kernel.view) (pid : ProcessId) (syscall : Syscall) (now : UInt64) :
    Judged state.view kernel pid now syscall (state.dispatch pid syscall now).result
      (state.dispatch pid syscall now).state.view := by
  have hs := state.dispatch_step pid syscall now
  cases syscall with
  | Debug | GetTime | Yield | ListProcesses | ListCaps => exact .agree trivial rfl h
  | CapInspect => exact inspect_verdict h
  | Exit => exact exit_verdict h hs
  | Kill => exact kill_verdict h hs
  | CreateEndpoint => exact create_verdict h hs
  | Send => exact send_verdict h hs
  | Call => exact call_verdict h hs
  | SendWithCaps => exact sendWithCaps_verdict h hs
  | Receive => exact receive_verdict h hs
  | CapGrant => exact grant_verdict h hs
  | CapDerive => exact derive_verdict h hs
  | CapRevoke => exact revoke_verdict h hs
  | CapDelete => exact delete_verdict h hs

-- The two systems side by side.
structure Twin where
  core : KernelState
  kernel : KernelCore

namespace Twin

def step (twin : Twin) (call : TypedCall) : Twin where
  core := (twin.core.step call.pid call.syscall call.now).state
  kernel := (twin.kernel.handleSyscall call.pid call.syscall call.now).kernel

def register (twin : Twin) (process : String × UInt64) : Twin where
  core := (twin.core.registerProcess process.1 process.2).2
  kernel := (twin.kernel.registerProcess process.1 process.2).1

-- Both empty, with the same processes registered in the same order.
def registered (processes : List (String × UInt64)) : Twin :=
  processes.foldl register ⟨KernelState.new, KernelCore.new⟩

-- The call has the same outcome on both sides and leaves equal states.
structure Agrees (twin : Twin) (call : TypedCall) : Prop where
  outcome : (twin.core.step call.pid call.syscall call.now).result.outcomeClass =
    (twin.kernel.handleSyscall call.pid call.syscall call.now).result.outcomeClass
  states : Matches (twin.step call).core.view (twin.step call).kernel.view

-- The id of the next capability is the same too. No table shows it until it is given out.
structure Tallies (twin : Twin) (call : TypedCall) : Prop extends twin.Agrees call where
  capIds : (twin.step call).core.nextCapId = (twin.step call).kernel.nextCapId

def Compatible (twin : Twin) (call : TypedCall) : Prop :=
  Core.Compatible twin.core.view twin.kernel.view call.pid call.now call.syscall

lemma step_verdict {twin : Twin} (h : Corresponds twin.core.view twin.kernel.view)
    (call : TypedCall) :
    Verdict (twin.Compatible call)
      (twin.core.step call.pid call.syscall call.now).result.outcomeClass
      (twin.kernel.handleSyscall call.pid call.syscall call.now).result.outcomeClass
      (twin.step call).core.view (twin.step call).kernel.view := by
  have hu : Corresponds (twin.core.updateSyscallMetrics call.pid call.now).view
      (twin.kernel.updateSyscallMetrics call.pid call.now).view := by
    rw [KernelState.view_updateSyscallMetrics, view_updateSyscallMetrics]
    exact h
  have hv := dispatch_verdict hu call.pid call.syscall call.now
  rw [KernelState.view_updateSyscallMetrics, Judged, view_updateSyscallMetrics] at hv
  exact hv

lemma corresponds_new : Corresponds KernelState.new.view new.view where
  states := by
    intro pid process hg
    simp [new] at hg
  gone := by
    intro pid entry hg
    simp [KernelState.new] at hg
  spaced := by
    intro pid hm
    simp [new] at hm
  spaceless := by
    simp [new]
  spaces := fun _ _ => rfl
  lasting := by
    intro pid slot cap hh
    simp [KernelState.new, capAt] at hh
  endpoints := by
    simp [KernelState.new]
  nextEndpointId := rfl
  nextCapId := rfl

lemma corresponds_registered {processes : List (String × UInt64)} :
    Corresponds (registered processes).core.view (registered processes).kernel.view := by
  -- The same pid is next on both sides.
  suffices hb : ∀ twin : _, Corresponds twin.core.view twin.kernel.view →
      twin.core.nextPid = twin.kernel.nextPid →
      Corresponds (processes.foldl register twin).core.view
        (processes.foldl register twin).kernel.view by
    exact hb _ corresponds_new rfl
  induction processes with
  | nil => exact fun twin h _ => h
  | cons process _ ih =>
    intro twin h hp
    refine ih (twin.register process) ?_ (congrArg (· + 1) hp)
    have hn := h.register process.1 (twin.kernel.nextPid + 1)
    rw [KernelState.view_nextPid, hp] at hn
    simpa only [register, registerProcess, KernelState.view_registerProcess,
      view_registerProcessWithParent] using hn

lemma tallies_run_iff (h : Corresponds twin.core.view twin.kernel.view) :
    Run.Along step Tallies twin calls ↔ Run.Along step Compatible twin calls := by
  induction calls generalizing twin with
  | nil => exact Iff.rfl
  | cons call _ ih =>
    have hv := step_verdict h call
    constructor
    · rintro ⟨ht, hr⟩
      have hc := hv.differs ht.outcome ht.states ht.capIds
      exact ⟨hc, (ih (hv.agrees hc).2).mp hr⟩
    · rintro ⟨hc, hr⟩
      obtain ⟨ho, hco⟩ := hv.agrees hc
      exact ⟨⟨⟨ho, hco.toMatches⟩, hco.nextCapId⟩, (ih hco).mpr hr⟩

theorem tallies_iff (processes : List (String × UInt64)) (calls : List TypedCall) :
    Run.Along step Tallies (registered processes) calls ↔
      Run.Along step Compatible (registered processes) calls :=
  tallies_run_iff corresponds_registered

-- Process 2 may not kill in the kernel; in the core everyone may.
theorem not_agrees_kill :
    ¬ Run.Along step Agrees (registered [("first", 0), ("second", 0)]) [⟨2, .Kill 1, 0⟩] := by
  rintro ⟨ha, -⟩
  have ho := ha.outcome
  revert ho
  decide +kernel

end Twin

end Core

end ZeroOS
