import ZeroOS.Kernel.Capability.Lemmas

/-!
Sends and receives in terms of the view.
-/

namespace ZeroOS

open CapabilitySpace TransferredCap KernelView BTreeMap CapSpaces

namespace CapabilitySpace

-- The capabilities taken out of a list of slots, with the slots they were in. A slot
-- that is empty when its turn comes gives nothing.
def takeAll (cspace : CapabilitySpace) : List CapSlot → CapabilitySpace × List (CapSlot × Capability)
  | [] => (cspace, [])
  | slot :: rest =>
    let after := takeAll (cspace.remove slot).2 rest
    match cspace.get slot with
    | none => after
    | some cap => (after.1, (slot, cap) :: after.2)

-- Capabilities put into successive fresh slots.
def insertAll (cspace : CapabilitySpace) : List Capability → CapabilitySpace × List CapSlot
  | [] => (cspace, [])
  | cap :: rest =>
    let after := insertAll (cspace.insert cap).2 rest
    (after.1, cspace.nextSlot :: after.2)

end CapabilitySpace

def Message.caps (msg : Message) : List Capability :=
  msg.transferredCaps.map TransferredCap.capability

-- The form in which capabilities travel.
def inFlight (moved : List (CapSlot × Capability)) : List TransferredCap :=
  moved.map fun (_, cap) => ⟨cap, none⟩

@[simp] lemma map_capability_inFlight : (inFlight moved).map capability = moved.map Prod.snd := by
  simp [inFlight]

namespace KernelCore

variable (kernel : KernelCore)

section

variable (pid : ProcessId) (slot : CapSlot) (timestamp : UInt64) (eid : EndpointId)

lemma validateSendCap_ok_iff :
    kernel.validateSendCap pid slot timestamp = .ok eid ↔
      ∃ cap, kernel.capSpaces.capAt pid slot = some cap ∧ cap.objectType = .Endpoint ∧
        cap.permissions.write = true ∧ cap.isExpired timestamp = false ∧ cap.objectId = eid := by
  unfold validateSendCap capAt
  cases kernel.capSpaces[pid]? with
  | none => simp
  | some =>
    simp [mapError_eq_ok_iff, map_eq_ok_iff, axiomCheck_ok_iff, Permissions.writeOnly, and_assoc]

lemma validateSendCapBasic_ok_iff :
    kernel.validateSendCapBasic pid slot = .ok eid ↔
      ∃ cap, kernel.capSpaces.capAt pid slot = some cap ∧ cap.objectType = .Endpoint ∧
        cap.permissions.write = true ∧ cap.objectId = eid := by
  unfold validateSendCapBasic capAt
  cases kernel.capSpaces[pid]? with
  | none => simp
  | some cs =>
    cases hget : cs.get slot with
    | none => simp [hget]
    | some cap =>
      by_cases ht : cap.objectType = .Endpoint
      · cases hw : cap.permissions.write with
        | false => simp [hget, hw]
        | true => simp [hget, ht, hw]
      · simp [hget, ht]

lemma validateReceiveCap_ok_iff :
    kernel.validateReceiveCap pid slot timestamp = .ok eid ↔
      ∃ cap, kernel.capSpaces.capAt pid slot = some cap ∧ cap.objectType = .Endpoint ∧
        cap.permissions.read = true ∧ cap.isExpired timestamp = false ∧ cap.objectId = eid := by
  unfold validateReceiveCap capAt
  cases kernel.capSpaces[pid]? with
  | none => simp
  | some =>
    simp [mapError_eq_ok_iff, map_eq_ok_iff, axiomCheck_ok_iff, Permissions.readOnly, and_assoc]

end

lemma validateReceiveCap_of_capSpaces {kernel other : KernelCore}
    (hc : other.capSpaces = kernel.capSpaces) (pid : ProcessId) (slot : CapSlot)
    (timestamp : UInt64) :
    other.validateReceiveCap pid slot timestamp = kernel.validateReceiveCap pid slot timestamp := by
  simp only [validateReceiveCap, hc]

section

variable (fromPid pid : ProcessId) (timestamp : UInt64) (slots : List CapSlot)

lemma validateCapsExist_ok_iff :
    kernel.validateCapsExist pid slots = .ok () ↔
      ∃ cs, kernel.capSpaces[pid]? = some cs ∧ ∀ slot ∈ slots, (cs.get slot).isSome := by
  unfold validateCapsExist
  cases kernel.capSpaces[pid]? with
  | none => simp
  | some => simp [Option.isSome_iff_ne_none]

lemma transferLoop_eq :
    transferLoop fromPid timestamp slots cs transferred commits =
      ((cs.takeAll slots).1, transferred ++ inFlight (cs.takeAll slots).2,
        commits ++ (cs.takeAll slots).2.map fun (slot, _) =>
          .draft timestamp (.CapRemoved fromPid slot)) := by
  induction slots generalizing cs transferred commits with
  | nil => simp [transferLoop, takeAll, inFlight]
  | cons slot _ ih =>
    have hr : cs.remove slot = (cs.get slot, (cs.remove slot).2) := rfl
    rw [transferLoop, takeAll, hr]
    cases cs.get slot with
    | none => exact ih ..
    | some =>
      dsimp only
      rw [ih]
      simp [inFlight]

lemma installLoop_eq :
    installLoop pid timestamp tcaps cs installed commits =
      ((cs.insertAll (tcaps.map capability)).1,
        installed ++ (cs.insertAll (tcaps.map capability)).2,
        commits ++ List.zipWith (fun slot cap => .draft timestamp (.ofInsert pid slot cap))
          (cs.insertAll (tcaps.map capability)).2
          (tcaps.map capability)) := by
  induction tcaps generalizing cs installed commits with
  | nil => simp [installLoop, insertAll]
  | cons tcap _ ih =>
    have hi : cs.insert tcap.capability = (cs.nextSlot, (cs.insert tcap.capability).2) := rfl
    rw [installLoop, hi]
    dsimp only
    rw [ih]
    simp [insertAll, CommitType.ofInsert]

lemma queueMessage_of_get (hget : kernel.endpoints[eid]? = some endpoint) (msg : Message) :
    ∃ kernel', kernel.queueMessage eid msg = (kernel', .ok ()) ∧
      kernel'.view = kernel.view.setQueue eid (endpoint.pendingMessages ++ [msg]) := by
  simp only [queueMessage, hget]
  exact ⟨_, rfl, view_putEndpoint _ _ _ _ _ hget rfl⟩

lemma ipcSend_cases (slot : CapSlot) (tag : UInt32) (data : List UInt8) (timestamp : UInt64) :
    (∃ e, (∀ eid, kernel.validateSendCap fromPid slot timestamp = .ok eid →
        kernel.endpoints[eid]? = none) ∧
      kernel.ipcSend fromPid slot tag data timestamp = (kernel, .error e, none)) ∨
    (∃ eid endpoint kernel', kernel.validateSendCap fromPid slot timestamp = .ok eid ∧
      kernel.endpoints[eid]? = some endpoint ∧
      kernel.ipcSend fromPid slot tag data timestamp =
        (kernel', .ok (), some (.draft timestamp (.MessageSent fromPid eid tag data.length))) ∧
      kernel'.view = kernel.view.setQueue eid
        (endpoint.pendingMessages ++ [⟨fromPid, tag, data, []⟩])) := by
  unfold ipcSend
  cases hval : kernel.validateSendCap fromPid slot timestamp with
  | error e => exact .inl ⟨e, nofun, rfl⟩
  | ok eid =>
    cases hget : kernel.endpoints[eid]? with
    | none =>
      refine .inl ⟨.EndpointNotFound, ?_, by simp [queueMessage, hget]⟩
      rintro _ ⟨⟩
      exact hget
    | some endpoint =>
      obtain ⟨_, hq, hv⟩ := kernel.queueMessage_of_get hget ⟨fromPid, tag, data, []⟩
      simp only [hq]
      refine .inr ⟨eid, endpoint, _, rfl, hget, rfl, ?_⟩
      rw [view_updateSendMetrics, hv]

end

lemma removeAndTransferCaps_of_get (hc : kernel.capSpaces[fromPid]? = some cs)
    (capSlots : List CapSlot) (timestamp : UInt64) :
    kernel.removeAndTransferCaps fromPid capSlots timestamp =
      ({ kernel with capSpaces := kernel.capSpaces.insert fromPid (cs.takeAll capSlots).1 },
        .ok (inFlight (cs.takeAll capSlots).2, (cs.takeAll capSlots).2.map fun (slot, _) =>
          .draft timestamp (.CapRemoved fromPid slot))) := by
  simp [removeAndTransferCaps, hc, transferLoop_eq]

-- Once the limits, the endpoint capability, the endpoint and the slots are there, a send
-- with capabilities goes through.
lemma ipcSendWithCaps_of_valid (tag : UInt32) (timestamp : UInt64)
    (hl : validateMessageLimits data.length capSlots.length = .ok ())
    (hval : kernel.validateSendCapBasic fromPid slot = .ok eid)
    (hget : kernel.endpoints[eid]? = some endpoint) (hc : kernel.capSpaces[fromPid]? = some cs)
    (ha : kernel.validateCapsExist fromPid capSlots = .ok ()) :
    ∃ kernel', kernel.ipcSendWithCaps fromPid slot tag data capSlots timestamp =
        ⟨kernel', .ok (), (cs.takeAll capSlots).2.map fun (slot, _) =>
          .draft timestamp (.CapRemoved fromPid slot)⟩ ∧
      kernel'.view = (kernel.view.putSpace fromPid (cs.takeAll capSlots).1).setQueue eid
        (endpoint.pendingMessages ++ [⟨fromPid, tag, data, inFlight (cs.takeAll capSlots).2⟩]) := by
  have hm : eid ∈ kernel.endpoints := (mem_iff ..).mpr ⟨endpoint, hget⟩
  have ht := kernel.removeAndTransferCaps_of_get hc capSlots timestamp
  obtain ⟨queued, hq, hv⟩ := queueMessage_of_get
    { kernel with capSpaces := kernel.capSpaces.insert fromPid (cs.takeAll capSlots).1 } hget
    ⟨fromPid, tag, data, inFlight (cs.takeAll capSlots).2⟩
  refine ⟨queued.updateSendMetrics fromPid eid data.length timestamp, ?_, ?_⟩
  · simp only [ipcSendWithCaps, hl, hval, hm, not_true_eq_false, ite_false, ha, ht, hq]
  · rw [view_updateSendMetrics, hv]
    rfl

lemma ipcSendWithCaps_cases (fromPid : ProcessId) (slot : CapSlot) (tag : UInt32)
    (data : List UInt8) (capSlots : List CapSlot) (timestamp : UInt64) :
    (∃ e, kernel.ipcSendWithCaps fromPid slot tag data capSlots timestamp =
      ⟨kernel, .error e, []⟩) ∨
    (∃ eid endpoint cs kernel', validateMessageLimits data.length capSlots.length = .ok () ∧
      kernel.validateSendCapBasic fromPid slot = .ok eid ∧
      kernel.endpoints[eid]? = some endpoint ∧ kernel.capSpaces[fromPid]? = some cs ∧
      kernel.validateCapsExist fromPid capSlots = .ok () ∧
      kernel.ipcSendWithCaps fromPid slot tag data capSlots timestamp =
        ⟨kernel', .ok (), (cs.takeAll capSlots).2.map fun (slot, _) =>
          .draft timestamp (.CapRemoved fromPid slot)⟩ ∧
      kernel'.view = (kernel.view.putSpace fromPid (cs.takeAll capSlots).1).setQueue eid
        (endpoint.pendingMessages ++
          [⟨fromPid, tag, data, inFlight (cs.takeAll capSlots).2⟩])) := by
  cases hl : validateMessageLimits data.length capSlots.length with
  | error e => exact .inl ⟨e, by simp only [ipcSendWithCaps, hl]⟩
  | ok =>
  cases hval : kernel.validateSendCapBasic fromPid slot with
  | error e => exact .inl ⟨e, by simp only [ipcSendWithCaps, hl, hval]⟩
  | ok eid =>
  cases hget : kernel.endpoints[eid]? with
  | none =>
    have hm : eid ∉ kernel.endpoints := not_mem_iff.mpr hget
    exact .inl ⟨.EndpointNotFound, by simp [ipcSendWithCaps, hl, hval, hm]⟩
  | some endpoint =>
  have hm : eid ∈ kernel.endpoints := (mem_iff ..).mpr ⟨endpoint, hget⟩
  cases hc : kernel.validateCapsExist fromPid capSlots with
  | error e => exact .inl ⟨e, by simp [ipcSendWithCaps, hl, hval, hm, hc]⟩
  | ok =>
    obtain ⟨cs, hs, -⟩ := (kernel.validateCapsExist_ok_iff fromPid capSlots).mp hc
    obtain ⟨kernel', he, hv⟩ := kernel.ipcSendWithCaps_of_valid tag timestamp hl hval hget hs hc
    exact .inr ⟨eid, endpoint, cs, kernel', rfl, rfl, hget, hs, rfl, he, hv⟩

def receivable (pid : ProcessId) (slot : CapSlot) (timestamp : UInt64) : List Message :=
  match kernel.validateReceiveCap pid slot timestamp with
  | .error _ => []
  | .ok eid =>
    match kernel.endpoints[eid]? with
    | none => []
    | some endpoint => endpoint.pendingMessages

section

variable (hval : kernel.validateReceiveCap pid slot timestamp = .ok eid)
  (hget : kernel.endpoints[eid]? = some endpoint)

include hval hget

lemma receivable_of_valid : kernel.receivable pid slot timestamp = endpoint.pendingMessages := by
  simp only [receivable, hval, hget]

lemma receivable_of_setQueue {popped : KernelCore}
    (hv : popped.view = kernel.view.setQueue eid rest) :
    popped.receivable pid slot timestamp = rest := by
  have hc : popped.capSpaces = kernel.capSpaces := congrArg KernelView.capSpaces hv
  have hv' := (validateReceiveCap_of_capSpaces hc pid slot timestamp).trans hval
  have hq : popped.view.endpoints[eid]? = some { endpoint.view with queue := rest } := by
    rw [hv, setQueue, get_modify, if_pos rfl, kernel.view_endpoints_of_get hget, Option.map_some]
  rw [view_endpoints_get, Option.map_eq_some_iff] at hq
  obtain ⟨_, hg', hs⟩ := hq
  rw [popped.receivable_of_valid hv' hg']
  exact congrArg EndpointView.queue hs

end

lemma ipcReceive_cases (pid : ProcessId) (slot : CapSlot) (timestamp : UInt64) :
    (∃ e, kernel.receivable pid slot timestamp = [] ∧
      kernel.ipcReceive pid slot timestamp = (kernel, .error e)) ∨
    (∃ eid endpoint, kernel.validateReceiveCap pid slot timestamp = .ok eid ∧
      kernel.endpoints[eid]? = some endpoint ∧ endpoint.pendingMessages = [] ∧
      kernel.ipcReceive pid slot timestamp = (kernel, .ok none)) ∨
    (∃ eid endpoint msg rest kernel', kernel.validateReceiveCap pid slot timestamp = .ok eid ∧
      kernel.endpoints[eid]? = some endpoint ∧ endpoint.pendingMessages = msg :: rest ∧
      kernel.ipcReceive pid slot timestamp = (kernel', .ok (some msg)) ∧
      kernel'.view = kernel.view.setQueue eid rest) := by
  unfold ipcReceive
  cases hval : kernel.validateReceiveCap pid slot timestamp with
  | error e => exact .inl ⟨e, by simp only [receivable, hval], rfl⟩
  | ok eid =>
    cases hget : kernel.endpoints[eid]? with
    | none =>
      refine .inl ⟨.EndpointNotFound, by simp only [receivable, hval, hget], ?_⟩
      simp only [hget]
    | some endpoint =>
      refine .inr ?_
      cases hq : endpoint.pendingMessages with
      | nil => exact .inl ⟨eid, endpoint, rfl, hget, hq, by simp only [hget, hq]⟩
      | cons msg rest =>
        simp only [hget, hq]
        refine .inr ⟨eid, endpoint, msg, rest, _, rfl, hget, hq, rfl, ?_⟩
        rw [view_updateReceiveMetrics]
        exact view_putEndpoint _ _ _ _ _ hget rfl

lemma putSpace_self {view : KernelView} (hc : view.capSpaces[pid]? = some cs) :
    view.putSpace pid cs = view := by
  simp only [putSpace, insert_of_get hc]

lemma ipcReceiveWithCaps_cases (pid : ProcessId) (slot : CapSlot) (timestamp : UInt64) :
    (∃ e, kernel.receivable pid slot timestamp = [] ∧
      kernel.ipcReceiveWithCaps pid slot timestamp = ⟨kernel, .error e, []⟩) ∨
    (∃ eid endpoint, kernel.validateReceiveCap pid slot timestamp = .ok eid ∧
      kernel.endpoints[eid]? = some endpoint ∧ endpoint.pendingMessages = [] ∧
      kernel.ipcReceiveWithCaps pid slot timestamp = ⟨kernel, .ok none, []⟩) ∨
    (∃ eid endpoint cs msg rest kernel', kernel.validateReceiveCap pid slot timestamp = .ok eid ∧
      kernel.endpoints[eid]? = some endpoint ∧ kernel.capSpaces[pid]? = some cs ∧
      endpoint.pendingMessages = msg :: rest ∧
      kernel.ipcReceiveWithCaps pid slot timestamp =
        ⟨kernel', .ok (some (msg, (cs.insertAll msg.caps).2)),
          List.zipWith (fun slot cap => .draft timestamp (.ofInsert pid slot cap))
            (cs.insertAll msg.caps).2 msg.caps⟩ ∧
      kernel'.view = (kernel.view.setQueue eid rest).putSpace pid (cs.insertAll msg.caps).1) := by
  unfold ipcReceiveWithCaps
  rcases kernel.ipcReceive_cases pid slot timestamp with
    ⟨e, hn, he⟩ | ⟨eid, endpoint, hval, hget, hq, he⟩ |
    ⟨eid, endpoint, msg, rest, received, hval, hget, hq, he, hv⟩
  · exact .inl ⟨e, hn, by rw [he]⟩
  · exact .inr (.inl ⟨eid, endpoint, hval, hget, hq, by rw [he]⟩)
  · obtain ⟨cap, hh, -⟩ := (kernel.validateReceiveCap_ok_iff pid slot timestamp eid).mp hval
    obtain ⟨cs, hc, -⟩ := capAt_eq_some_iff.mp hh
    have hs : received.capSpaces = kernel.capSpaces := congrArg KernelView.capSpaces hv
    simp only [he]
    by_cases ha : msg.transferredCaps = []
    · refine .inr (.inr ⟨eid, endpoint, cs, msg, rest, received, hval, hget, hc, hq, ?_, ?_⟩)
      · simp [ha, Message.caps, insertAll]
      · simp only [Message.caps, ha, hv]
        exact (putSpace_self hc).symm
    · simp only [ha, installTransferredCaps, hs, hc, installLoop_eq]
      refine .inr (.inr ⟨eid, endpoint, cs, msg, rest, _, hval, hget, rfl, hq, rfl, ?_⟩)
      rw [← hv, putSpace, view_capSpaces, hs]
      rfl

lemma view_ipcReceiveWithCaps (pid : ProcessId) (slot : CapSlot) (timestamp : UInt64) :
    (kernel.ipcReceiveWithCaps pid slot timestamp).kernel.view = kernel.view ∨
    ∃ (eid : EndpointId) (endpoint : EndpointView) (cs : CapabilitySpace) (msg : Message)
      (rest : List Message),
      kernel.view.endpoints[eid]? = some endpoint ∧ endpoint.queue = msg :: rest ∧
      kernel.view.capSpaces[pid]? = some cs ∧
      (kernel.ipcReceiveWithCaps pid slot timestamp).kernel.view =
        (kernel.view.setQueue eid rest).putSpace pid (cs.insertAll msg.caps).1 := by
  rcases kernel.ipcReceiveWithCaps_cases pid slot timestamp with
    ⟨e, -, he⟩ | ⟨_, _, _, _, _, he⟩ |
    ⟨eid, endpoint, cs, msg, rest, _, _, hget, hc, hq, he, hv⟩
  · exact .inl (by rw [he])
  · exact .inl (by rw [he])
  · refine .inr ⟨eid, endpoint.view, cs, msg, rest, kernel.view_endpoints_of_get hget, hq, hc, ?_⟩
    rw [he, ← hv]

end KernelCore

end ZeroOS
