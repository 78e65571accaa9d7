import ZeroOS.Kernel.Effect
import ZeroOS.Lib.Run

/-!
What a process can still do after its exit.
-/

namespace ZeroOS

open BTreeMap CapSpaces

def Syscall.Succeeds : Syscall → SyscallResult → Prop
  | .Send .., .Ok _ | .SendWithCaps .., .Ok _ | .Call .., .WouldBlock => True
  | .Receive _, .Message _ | .CapGrant .., .Ok _ | .CapDerive .., .Ok _ => True
  | .CreateEndpoint, .Ok _ | .Kill _, .Ok _ => True
  | _, _ => False

lemma Syscall.not_succeeds_err (syscall : Syscall) : ¬ syscall.Succeeds (.Err e) := by
  cases syscall <;> exact fun h => h

namespace KernelCore

-- Queues, endpoints and capability spaces are as before, and nothing was achieved.
structure Inert (kernel : KernelCore) (syscall : Syscall) (outcome : SyscallOutcome) : Prop where
  endpoints : outcome.kernel.endpoints = kernel.endpoints
  capSpaces : outcome.kernel.capSpaces = kernel.capSpaces
  result : ¬ syscall.Succeeds outcome.result

-- What the checks of the handlers ask for before a call takes effect.
def Permits (kernel : KernelCore) (pid : ProcessId) (now : UInt64) : Syscall → Prop
  -- Without a space the new endpoint is taken out again, with whatever had its id.
  | .CreateEndpoint =>
    pid ∈ kernel.processes ∧ (pid ∈ kernel.capSpaces ∨ kernel.nextEndpointId ∈ kernel.endpoints)
  | .Send slot _ _ | .Call slot _ _ =>
    ∃ eid, kernel.validateSendCap pid slot now = .ok eid ∧ eid ∈ kernel.endpoints
  | .SendWithCaps slot _ data capSlots =>
    validateMessageLimits data.length capSlots.length = .ok () ∧
      (∃ eid, kernel.validateSendCapBasic pid slot = .ok eid ∧ eid ∈ kernel.endpoints) ∧
      kernel.validateCapsExist pid capSlots = .ok ()
  | .Receive slot =>
    ∃ eid endpoint, kernel.validateReceiveCap pid slot now = .ok eid ∧
      kernel.endpoints[eid]? = some endpoint ∧ endpoint.pendingMessages ≠ []
  | .CapGrant slot toPid _ =>
    (∃ source, kernel.validateGrantSource pid slot now = .ok source) ∧ toPid ∈ kernel.capSpaces
  | .CapDerive slot _ => ∃ source, kernel.validateDeriveSource pid slot now = .ok source
  | .CapRevoke slot => ∃ id, kernel.validateRevokePermission pid slot now = .ok id
  | .CapDelete slot => ∃ cap, kernel.capSpaces.capAt pid slot = some cap
  | .Kill target =>
    target ∈ kernel.processes ∧ (pid = 1 ∨ kernel.hasKillPermission pid target = true)
  | _ => False

variable {kernel : KernelCore} {pid : ProcessId} {now : UInt64}

lemma permits_updateSyscallMetrics :
    (kernel.updateSyscallMetrics pid now).Permits pid now syscall ↔
      kernel.Permits pid now syscall := by
  have hm : ∀ other : ProcessId, other ∈ (kernel.updateSyscallMetrics pid now).processes ↔
      other ∈ kernel.processes := fun other => mem_modify
  cases syscall with
  | CreateEndpoint => exact and_congr_left' (hm pid)
  | Kill => exact and_congr_left' (hm ..)
  | _ => exact Iff.rfl

lemma inert_of_unchanged (hk : outcome.kernel = kernel) (hr : outcome.result = .Err e) :
    kernel.Inert syscall outcome := by
  refine ⟨by rw [hk], by rw [hk], ?_⟩
  rw [hr]
  exact syscall.not_succeeds_err

lemma not_inert_of_succeeds (h : syscall.Succeeds outcome.result) :
    ¬ kernel.Inert syscall outcome :=
  fun hi => hi.result h

lemma not_inert_of_removed (hc : kernel.capSpaces[pid]? = some cs) (he : cs.get slot = some cap)
    (ha : outcome.kernel.capSpaces = kernel.capSpaces.insert pid (cs.remove slot).2) :
    ¬ kernel.Inert syscall outcome := by
  intro hi
  have hg : outcome.kernel.capSpaces.capAt pid slot = none := by
    rw [ha, capAt_insert, if_pos rfl, CapabilitySpace.get_remove, if_pos rfl]
  rw [hi.capSpaces, capAt_of_get hc, he] at hg
  cases hg

section

variable (kernel : KernelCore) (pid : ProcessId) (syscall : Syscall) (slot : CapSlot) (tag : UInt32)
  (perms : Permissions) (data : List UInt8) (now : UInt64)

-- One lemma for each kind of call: it is inert exactly when its checks fail.

lemma inert_createEndpoint_iff :
    kernel.Inert .CreateEndpoint (kernel.handleCreateEndpoint pid now) ↔
      ¬ kernel.Permits pid now .CreateEndpoint := by
  rcases kernel.createEndpoint_cases pid now with
    ⟨hr, he⟩ | ⟨hr, hc, -⟩ | ⟨cs, hr, hc, he⟩
  · rw [handleCreateEndpoint, he]
    exact iff_of_true (inert_of_unchanged rfl rfl) fun hp => hr hp.1
  · -- The process has no space: the endpoint goes in under the next id and out again.
    have hf : (kernel.handleCreateEndpoint pid now).kernel =
        { kernel with
          nextEndpointId := kernel.nextEndpointId + 1
          nextCapId := kernel.nextCapId + 1
          endpoints := kernel.endpoints.erase kernel.nextEndpointId } := by
      simp [handleCreateEndpoint, createEndpoint, hr, grantOwnerEndpointCap_eq, hc,
        Outcome.toSyscall, erase_insert]
    have hsp : pid ∉ kernel.capSpaces := not_mem_iff.mpr hc
    constructor
    · intro hi hp
      have hs := hi.endpoints
      rw [hf] at hs
      have hm := hp.2.resolve_left hsp
      rw [← hs] at hm
      simp at hm
    · intro hn
      have hfr : kernel.endpoints[kernel.nextEndpointId]? = none :=
        not_mem_iff.mp fun hm => hn ⟨hr, .inr hm⟩
      refine ⟨by rw [hf]; exact erase_of_get_none hfr, by rw [hf], ?_⟩
      simp [handleCreateEndpoint, createEndpoint, hr, grantOwnerEndpointCap_eq, hc,
        Outcome.toSyscall, Syscall.Succeeds]
  · rw [handleCreateEndpoint, he]
    have hm : pid ∈ kernel.capSpaces := (mem_iff ..).mpr ⟨cs, hc⟩
    exact iff_of_false (not_inert_of_succeeds trivial) fun hn => hn ⟨hr, .inl hm⟩

lemma ipcSend_inert_iff (ho : syscall.Succeeds (onOk ())) :
    kernel.Inert syscall (Outcome.toSyscall ⟨(kernel.ipcSend pid slot tag data now).1,
        (kernel.ipcSend pid slot tag data now).2.1,
        (kernel.ipcSend pid slot tag data now).2.2.toList⟩ onOk) ↔
      ¬ kernel.Permits pid now (.Send slot tag data) := by
  rcases kernel.ipcSend_cases pid slot tag data now with
    ⟨e, hn, he⟩ | ⟨eid, ep, _, hv, hg, he, -⟩
  · rw [he]
    refine iff_of_true (inert_of_unchanged rfl rfl) ?_
    rintro ⟨eid, hv, hm⟩
    exact not_mem_iff.mpr (hn eid hv) hm
  · rw [he]
    refine iff_of_false (not_inert_of_succeeds ho) (not_not.mpr ⟨eid, hv, ?_⟩)
    exact (mem_iff ..).mpr ⟨ep, hg⟩

lemma inert_sendWithCaps_iff :
    kernel.Inert (.SendWithCaps slot tag data slots)
        (kernel.handleSendWithCaps pid slot tag data slots now) ↔
      ¬ kernel.Permits pid now (.SendWithCaps slot tag data slots) := by
  unfold handleSendWithCaps
  rcases kernel.ipcSendWithCaps_cases pid slot tag data slots now with
    ⟨e, he⟩ | ⟨eid, ep, cs, kernel', hl, hv, hg, -, hc, he, -⟩
  · refine iff_of_true (by rw [he]; exact inert_of_unchanged rfl rfl) ?_
    rintro ⟨hl, ⟨eid, hv, hm⟩, hc⟩
    obtain ⟨ep, hg⟩ := (mem_iff ..).mp hm
    obtain ⟨cs, hcs, -⟩ := (kernel.validateCapsExist_ok_iff pid slots).mp hc
    obtain ⟨kernel', hs, -⟩ := kernel.ipcSendWithCaps_of_valid tag now hl hv hg hcs hc
    rw [he] at hs
    cases hs
  · rw [he]
    refine iff_of_false (not_inert_of_succeeds trivial) (not_not.mpr ⟨hl, ⟨eid, hv, ?_⟩, hc⟩)
    exact (mem_iff ..).mpr ⟨ep, hg⟩

lemma inert_receive_iff :
    kernel.Inert (.Receive slot) (kernel.handleReceive pid slot now) ↔
      ¬ kernel.Permits pid now (.Receive slot) := by
  unfold handleReceive
  rcases kernel.ipcReceive_cases pid slot now with
    ⟨e, hn, he⟩ | ⟨eid, ep, hv, hg, hm, he⟩ |
    ⟨eid, ep, _, _, _, hv, hg, hq, he, -⟩
  · rw [he]
    refine iff_of_true (inert_of_unchanged rfl rfl) ?_
    rintro ⟨eid, ep, hv, hg, hp⟩
    exact hp ((kernel.receivable_of_valid hv hg).symm.trans hn)
  · rw [he]
    refine iff_of_true ⟨rfl, rfl, fun h => h⟩ ?_
    rintro ⟨_, _, ho, hgo, hp⟩
    rw [hv] at ho
    cases ho
    rw [hg] at hgo
    cases hgo
    exact hp hm
  · rw [he]
    refine iff_of_false (not_inert_of_succeeds trivial) (not_not.mpr ⟨eid, ep, hv, hg, ?_⟩)
    rw [hq]
    exact List.cons_ne_nil _ _

lemma inert_capGrant_iff :
    kernel.Inert (.CapGrant slot toPid perms) (kernel.handleCapGrant pid slot toPid perms now) ↔
      ¬ kernel.Permits pid now (.CapGrant slot toPid perms) := by
  unfold handleCapGrant
  rcases kernel.grantCapability_cases pid slot toPid perms now with
    ⟨e, hi, he⟩ | ⟨source, -, hc, he⟩ | ⟨source, cs, hv, hc, he⟩
  · rw [he]
    refine iff_of_true (inert_of_unchanged rfl rfl) ?_
    rintro ⟨⟨source, hv⟩, -⟩
    rw [hi] at hv
    cases hv
  · rw [he]
    refine iff_of_true ⟨rfl, rfl, fun h => h⟩ ?_
    rintro ⟨-, hm⟩
    exact not_mem_iff.mpr hc hm
  · rw [he]
    refine iff_of_false (not_inert_of_succeeds trivial) (not_not.mpr ⟨⟨source, hv⟩, ?_⟩)
    exact (mem_iff ..).mpr ⟨cs, hc⟩

lemma inert_capDerive_iff :
    kernel.Inert (.CapDerive slot perms) (kernel.handleCapDerive pid slot perms now) ↔
      ¬ kernel.Permits pid now (.CapDerive slot perms) := by
  unfold handleCapDerive
  rcases kernel.deriveCapability_cases pid slot perms now with
    ⟨e, hi, he⟩ | ⟨source, _, hv, -, he⟩
  · rw [he]
    refine iff_of_true (inert_of_unchanged rfl rfl) ?_
    rintro ⟨source, hv⟩
    rw [hi] at hv
    cases hv
  · rw [he]
    exact iff_of_false (not_inert_of_succeeds trivial) (not_not.mpr ⟨source, hv⟩)

lemma inert_capRevoke_iff :
    kernel.Inert (.CapRevoke slot) (kernel.handleCapRevoke pid slot now) ↔
      ¬ kernel.Permits pid now (.CapRevoke slot) := by
  unfold handleCapRevoke revokeCapability
  cases hv : kernel.validateRevokePermission pid slot now with
  | error =>
    refine iff_of_true (inert_of_unchanged rfl rfl) ?_
    rintro ⟨id, ho⟩
    rw [hv] at ho
    cases ho
  | ok id =>
    obtain ⟨_, hh, -⟩ := (validateRevokePermission_ok_iff ..).mp hv
    obtain ⟨_, hc, hg⟩ := capAt_eq_some_iff.mp hh
    rw [kernel.removeSlot_of_get hc]
    exact iff_of_false (not_inert_of_removed hc hg rfl) (not_not.mpr ⟨id, hv⟩)

lemma inert_capDelete_iff :
    kernel.Inert (.CapDelete slot) (kernel.handleCapDelete pid slot now) ↔
      ¬ kernel.Permits pid now (.CapDelete slot) := by
  unfold handleCapDelete
  rcases kernel.deleteCapability_cases pid slot now with
    ⟨e, hn, he⟩ | ⟨cap, _, hc, hg, he⟩
  · rw [he]
    refine iff_of_true (inert_of_unchanged rfl rfl) ?_
    rintro ⟨cap, hh⟩
    rw [hn] at hh
    cases hh
  · rw [he]
    refine iff_of_false (not_inert_of_removed hc hg rfl) (not_not.mpr ⟨cap, ?_⟩)
    rw [capAt_of_get hc, hg]

lemma inert_kill_iff :
    kernel.Inert (.Kill target) (kernel.handleKill pid target now) ↔
      ¬ kernel.Permits pid now (.Kill target) := by
  unfold handleKill
  rcases kernel.killProcessWithCapCheck_cases pid target now with
    ⟨e, hn, he⟩ | ⟨hm, hp, he⟩
  · rw [he]
    exact iff_of_true (inert_of_unchanged rfl rfl) hn
  · rw [he]
    exact iff_of_false (not_inert_of_succeeds trivial) (not_not.mpr ⟨hm, hp⟩)

lemma inert_dispatchSyscall_iff :
    kernel.Inert syscall (kernel.dispatchSyscall pid syscall now) ↔
      ¬ kernel.Permits pid now syscall := by
  cases syscall with
  | CreateEndpoint => exact inert_createEndpoint_iff ..
  | Send _ tag | Call _ tag => exact ipcSend_inert_iff _ pid _ _ tag _ now trivial
  | SendWithCaps => exact inert_sendWithCaps_iff ..
  | Receive => exact inert_receive_iff ..
  | CapGrant => exact inert_capGrant_iff ..
  | CapDerive => exact inert_capDerive_iff ..
  | CapRevoke => exact inert_capRevoke_iff ..
  | CapDelete => exact inert_capDelete_iff ..
  | Kill => exact inert_kill_iff ..
  | Debug | ListCaps | ListProcesses | Exit | GetTime | Yield | CapInspect =>
    exact iff_of_true ⟨rfl, rfl, fun h => h⟩ fun h => h

lemma inert_handleSyscall_iff :
    kernel.Inert syscall (kernel.handleSyscall pid syscall now) ↔
      ¬ kernel.Permits pid now syscall := by
  rw [← permits_updateSyscallMetrics, ← inert_dispatchSyscall_iff]
  exact ⟨fun h => ⟨h.endpoints, h.capSpaces, h.result⟩,
    fun h => ⟨h.endpoints, h.capSpaces, h.result⟩⟩

end

def StaysInert (pid : ProcessId) (kernel : KernelCore) (calls : List TypedCall) : Prop :=
  Run.Along typedStep (fun kernel call => call.pid = pid →
    kernel.Inert call.syscall (kernel.handleSyscall pid call.syscall call.now)) kernel calls

-- An exited process is inert exactly as long as every call it still makes would be refused
-- to a live one.
theorem staysInert_exit_iff (kernel : KernelCore) (pid : ProcessId) (code : Int32) (now : UInt64)
    (calls : List TypedCall) :
    StaysInert pid (kernel.handleSyscall pid (.Exit code) now).kernel calls ↔
      Run.Along typedStep (fun kernel call => call.pid = pid →
        ¬ kernel.Permits pid call.now call.syscall)
        (kernel.handleSyscall pid (.Exit code) now).kernel calls := by
  constructor
  · intro hi
    refine hi.mono _ ?_
    intro kernel call h hp
    exact (inert_handleSyscall_iff ..).mp (h hp)
  · intro hr
    refine hr.mono _ ?_
    intro kernel call h hp
    exact (inert_handleSyscall_iff ..).mpr (h hp)

def owner : KernelCore :=
  Run.run exec new [(0, .RegisterProcess "app"), (0, .CreateEndpoint 1)]

theorem not_staysInert_owner :
    ¬ StaysInert 1 (owner.handleSyscall 1 (.Exit 0) 5).kernel [⟨1, .Send 0 7 [42], 6⟩] := by
  rintro ⟨hi, -⟩
  refine (hi rfl).result ?_
  trivial

end KernelCore

end ZeroOS
