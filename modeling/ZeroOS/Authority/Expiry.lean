import ZeroOS.Kernel.Process.Lemmas
import ZeroOS.Kernel.Ipc.Lemmas

/-!
What a process can still do when all of its capabilities have expired.
-/

namespace ZeroOS

open Outcome BTreeMap

-- The calls that exercise a capability of the caller.
def Syscall.UsesAuthority : Syscall → Prop
  | .Send .. | .SendWithCaps .. | .Call .. | .Receive .. => True
  | .CapGrant .. | .CapDerive .. | .CapRevoke .. | .Kill .. => True
  | _ => False

namespace KernelCore

variable {kernel : KernelCore} {pid : ProcessId} {now : UInt64}

def AllExpired (kernel : KernelCore) (pid : ProcessId) (now : UInt64) : Prop :=
  ∀ slot cap, kernel.capSpaces.capAt pid slot = some cap → cap.isExpired now = true

structure SameButMetrics (kernel after : KernelCore) (pid : ProcessId) : Prop where
  queues : ∀ eid : EndpointId, after.endpoints[eid]?.map Endpoint.pendingMessages =
    kernel.endpoints[eid]?.map Endpoint.pendingMessages
  others : ∀ other ≠ pid, after.processes[other]? = kernel.processes[other]?
  own : after.processes[pid]?.map Process.view = kernel.processes[pid]?.map Process.view
  spaces : after.capSpaces = kernel.capSpaces

-- The call fails and has no effect.
def Refuses (kernel : KernelCore) (pid : ProcessId) (syscall : Syscall) (now : UInt64) : Prop :=
  (∃ e, (kernel.handleSyscall pid syscall now).result = .Err e) ∧
    SameButMetrics kernel (kernel.handleSyscall pid syscall now).kernel pid

-- The two calls whose checks read the capability space directly and never ask
-- whether a capability has expired.
def SkipsExpiry (kernel : KernelCore) (pid : ProcessId) : Syscall → Prop
  | .SendWithCaps endpointSlot _ data capSlots =>
    validateMessageLimits data.length capSlots.length = .ok () ∧
      (∃ eid, kernel.validateSendCapBasic pid endpointSlot = .ok eid ∧
        eid ∈ kernel.endpoints) ∧
      kernel.validateCapsExist pid capSlots = .ok ()
  | .Kill target => target ∈ kernel.processes ∧ kernel.hasKillPermission pid target = true
  | _ => False

lemma sameButMetrics_updateSyscallMetrics :
    SameButMetrics kernel (kernel.updateSyscallMetrics pid now) pid where
  queues := fun _ => rfl
  others := by
    intro other hn
    simp only [updateSyscallMetrics, get_modify, hn.symm, ite_false]
  own := by
    simp only [updateSyscallMetrics, get_modify, ite_true, Option.map_map]
    rfl
  spaces := rfl

lemma refuses_of_error
    (h : ∃ e, (kernel.updateSyscallMetrics pid now).dispatchSyscall pid syscall now =
      ⟨kernel.updateSyscallMetrics pid now, .Err e, []⟩) : kernel.Refuses pid syscall now := by
  obtain ⟨e, he⟩ := h
  unfold Refuses handleSyscall
  rw [he]
  exact ⟨⟨e, rfl⟩, sameButMetrics_updateSyscallMetrics⟩

section

variable (hexp : kernel.AllExpired pid now)

include hexp

lemma ipcSend_of_allExpired (slot : CapSlot) (tag : UInt32) (data : List UInt8) :
    ∃ e, kernel.ipcSend pid slot tag data now = (kernel, .error e, none) := by
  rcases kernel.ipcSend_cases pid slot tag data now with ⟨e, -, he⟩ | ⟨_, -, -, hv, -⟩
  · exact ⟨e, he⟩
  · obtain ⟨cap, hh, -, -, hl, -⟩ := (validateSendCap_ok_iff ..).mp hv
    rw [hexp slot cap hh] at hl
    cases hl

lemma ipcReceive_of_allExpired (slot : CapSlot) :
    ∃ e, kernel.ipcReceive pid slot now = (kernel, .error e) := by
  have hr : ∀ eid, kernel.validateReceiveCap pid slot now ≠ .ok eid := by
    intro eid hv
    obtain ⟨cap, hh, -, -, hl, -⟩ := (validateReceiveCap_ok_iff ..).mp hv
    rw [hexp slot cap hh] at hl
    cases hl
  rcases kernel.ipcReceive_cases pid slot now with
    ⟨e, -, he⟩ | ⟨eid, -, hv, -⟩ | ⟨eid, -, -, -, -, hv, -⟩
  · exact ⟨e, he⟩
  · exact absurd hv (hr eid)
  · exact absurd hv (hr eid)

lemma grantCapability_of_allExpired (slot : CapSlot) (toPid : ProcessId) (perms : Permissions) :
    ∃ e, kernel.grantCapability pid slot toPid perms now = ⟨kernel, .error e, []⟩ := by
  have hr : ∀ source, kernel.validateGrantSource pid slot now ≠ .ok source := by
    intro source hv
    obtain ⟨hh, -, hl⟩ := (validateGrantSource_ok_iff ..).mp hv
    rw [hexp slot source hh] at hl
    cases hl
  rcases kernel.grantCapability_cases pid slot toPid perms now with
    ⟨e, -, he⟩ | ⟨source, hv, -⟩ | ⟨source, -, hv, -⟩
  · exact ⟨e, he⟩
  · exact absurd hv (hr _)
  · exact absurd hv (hr _)

lemma deriveCapability_of_allExpired (slot : CapSlot) (perms : Permissions) :
    ∃ e, kernel.deriveCapability pid slot perms now = ⟨kernel, .error e, []⟩ := by
  rcases kernel.deriveCapability_cases pid slot perms now with
    ⟨e, -, he⟩ | ⟨source, -, hv, -⟩
  · exact ⟨e, he⟩
  · obtain ⟨hh, hl⟩ := (validateDeriveSource_ok_iff ..).mp hv
    rw [hexp slot source hh] at hl
    cases hl

lemma revokeCapability_of_allExpired (slot : CapSlot) :
    ∃ e, kernel.revokeCapability pid slot now = ⟨kernel, .error e, []⟩ := by
  rcases kernel.revokeCapability_cases pid slot now with
    he | ⟨cap, _, hc, hg, -, hl, -⟩
  · exact he
  · rw [hexp slot cap (by rw [CapSpaces.capAt_of_get hc, hg])] at hl
    cases hl

end

lemma refuses_sendWithCaps_iff :
    kernel.Refuses pid (.SendWithCaps slot tag data slots) now ↔
      ¬ kernel.SkipsExpiry pid (.SendWithCaps slot tag data slots) := by
  constructor
  · rintro ⟨⟨e, he⟩, -⟩ ⟨hl, ⟨eid, hv, hm⟩, hc⟩
    obtain ⟨ep, hg⟩ := (mem_iff ..).mp hm
    obtain ⟨_, hs, -⟩ := (kernel.validateCapsExist_ok_iff pid slots).mp hc
    obtain ⟨_, hse, -⟩ := (kernel.updateSyscallMetrics pid now).ipcSendWithCaps_of_valid
      tag now hl hv hg hs hc
    simp [handleSyscall, dispatchSyscall, handleSendWithCaps, hse, toSyscall] at he
  · intro hn
    refine refuses_of_error ?_
    rcases (kernel.updateSyscallMetrics pid now).ipcSendWithCaps_cases pid slot tag data slots
      now with ⟨e, he⟩ | ⟨eid, ep, -, -, hl, hv, hg, -, hc, -⟩
    · exact ⟨e, by simp [dispatchSyscall, handleSendWithCaps, he, toSyscall]⟩
    · exact absurd ⟨hl, ⟨eid, hv, (mem_iff ..).mpr ⟨ep, hg⟩⟩, hc⟩ hn

lemma refuses_kill_iff (hin : pid ≠ 1) :
    kernel.Refuses pid (.Kill target) now ↔ ¬ kernel.SkipsExpiry pid (.Kill target) := by
  have hm : target ∈ (kernel.updateSyscallMetrics pid now).processes ↔
      target ∈ kernel.processes := by
    rw [← mem_view_processes, view_updateSyscallMetrics, mem_view_processes]
  rcases (kernel.updateSyscallMetrics pid now).killProcessWithCapCheck_cases pid target now with
    ⟨e, hn, he⟩ | ⟨hi, hp, ho⟩
  · constructor
    · rintro - ⟨hi, hp⟩
      exact hn ⟨hm.mpr hi, .inr hp⟩
    · intro _
      exact refuses_of_error ⟨e, by simp [dispatchSyscall, handleKill, he, toSyscall]⟩
  · constructor
    · rintro ⟨⟨e, he⟩, -⟩
      simp [handleSyscall, dispatchSyscall, handleKill, ho, toSyscall] at he
    · intro hn
      exact absurd ⟨hm.mp hi, hp.resolve_left hin⟩ hn

-- With every capability expired a call is refused, unless it is one of the two
-- that skip the check and would succeed without it.
theorem refuses_iff_of_allExpired (kernel : KernelCore) (pid : ProcessId) (syscall : Syscall)
    (now : UInt64) (hinit : pid ≠ 1) (hexp : kernel.AllExpired pid now)
    (huse : syscall.UsesAuthority) :
    kernel.Refuses pid syscall now ↔ ¬ kernel.SkipsExpiry pid syscall := by
  have hexp' : (kernel.updateSyscallMetrics pid now).AllExpired pid now := hexp
  cases syscall with
  | SendWithCaps => exact refuses_sendWithCaps_iff
  | Kill => exact refuses_kill_iff hinit
  | Send slot tag data =>
    obtain ⟨e, he⟩ := ipcSend_of_allExpired hexp' slot tag data
    refine iff_of_true (refuses_of_error ⟨e, ?_⟩) (fun h => h)
    simp [dispatchSyscall, handleSend, he, toSyscall]
  | Call slot tag data =>
    obtain ⟨e, he⟩ := ipcSend_of_allExpired hexp' slot tag data
    refine iff_of_true (refuses_of_error ⟨e, ?_⟩) (fun h => h)
    simp [dispatchSyscall, handleCall, he, toSyscall]
  | Receive slot =>
    obtain ⟨e, he⟩ := ipcReceive_of_allExpired hexp' slot
    refine iff_of_true (refuses_of_error ⟨e, ?_⟩) (fun h => h)
    simp [dispatchSyscall, handleReceive, he, toSyscall]
  | CapGrant slot toPid perms =>
    obtain ⟨e, he⟩ := grantCapability_of_allExpired hexp' slot toPid perms
    refine iff_of_true (refuses_of_error ⟨e, ?_⟩) (fun h => h)
    simp [dispatchSyscall, handleCapGrant, he, toSyscall]
  | CapDerive slot perms =>
    obtain ⟨e, he⟩ := deriveCapability_of_allExpired hexp' slot perms
    refine iff_of_true (refuses_of_error ⟨e, ?_⟩) (fun h => h)
    simp [dispatchSyscall, handleCapDerive, he, toSyscall]
  | CapRevoke slot =>
    obtain ⟨e, he⟩ := revokeCapability_of_allExpired hexp' slot
    refine iff_of_true (refuses_of_error ⟨e, ?_⟩) (fun h => h)
    simp [dispatchSyscall, handleCapRevoke, he, toSyscall]
  | Debug | CreateEndpoint | ListCaps | ListProcesses | Exit | GetTime | Yield | CapDelete
  | CapInspect => exact huse.elim

def expiredKernel : KernelCore :=
  { KernelCore.new with
    processes := (∅ : BTreeMap ProcessId Process).insert 2 ⟨2, "app", .Running, {}⟩
    capSpaces := (∅ : CapSpaces).insert 2 (CapabilitySpace.new.insert
      ⟨1, .Endpoint, 7, Permissions.full, 0, 5⟩).2
    endpoints := (∅ : BTreeMap EndpointId Endpoint).insert 7 ⟨7, 2, [], {}⟩ }

lemma expiredKernel_allExpired : expiredKernel.AllExpired 2 10 := by
  intro slot cap hh
  have hc : expiredKernel.capSpaces[(2 : ProcessId)]? = some (CapabilitySpace.new.insert
      ⟨1, .Endpoint, 7, Permissions.full, 0, 5⟩).2 := by decide
  rw [CapSpaces.capAt_of_get hc, CapabilitySpace.get_insert] at hh
  split_ifs at hh with hs
  · cases hh
    rfl
  · simp [CapabilitySpace.new, CapabilitySpace.get] at hh

theorem refuses_send_of_expiredKernel : expiredKernel.Refuses 2 (.Send 0 1 [42]) 10 :=
  (refuses_iff_of_allExpired _ 2 (.Send 0 1 [42]) 10 (by decide)
    expiredKernel_allExpired trivial).mpr (fun h => h)

-- The same process at the same time still sends, through the other call.
theorem sendWithCaps_of_expiredKernel :
    expiredKernel.AllExpired 2 10 ∧ (Syscall.SendWithCaps 0 1 [42] []).UsesAuthority ∧
      ¬ expiredKernel.Refuses 2 (.SendWithCaps 0 1 [42] []) 10 := by
  refine ⟨expiredKernel_allExpired, trivial, ?_⟩
  rintro ⟨⟨e, he⟩, -⟩
  cases he

end KernelCore

end ZeroOS
