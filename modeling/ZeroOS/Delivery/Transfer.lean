import ZeroOS.Kernel.Effect.Lemmas
import ZeroOS.Lib.Run

/-!
What becomes of the capabilities that a send takes out of the sender's space.
-/

namespace ZeroOS

open BTreeMap List
open KernelView

-- A later call by which the holder itself lets go of capabilities.
def Syscall.GivesUp : Syscall → Prop
  | .CapDelete _ | .CapRevoke _ | .SendWithCaps .. => True
  | _ => False

-- The same authority under a possibly different id.
def Capability.SameAuthority (held cap : Capability) : Prop :=
  held.objectType = cap.objectType ∧ held.objectId = cap.objectId ∧
    held.permissions = cap.permissions ∧ held.generation = cap.generation ∧
    held.expiresAt = cap.expiresAt

namespace KernelView

def Attached (view : KernelView) (eid : EndpointId) (msg : Message) : Prop :=
  ∃ endpoint, view.endpoints[eid]? = some endpoint ∧ msg ∈ endpoint.queue

-- The message is still queued, or some process received it and holds what it carried, unless
-- it has let go of it since.
def Accounted (view : KernelView) (eid : EndpointId) (msg : Message)
    (history : List (TypedCall × SyscallResult)) : Prop :=
  view.Attached eid msg ∨
  ∃ earlier later pid slot now,
    history = earlier ++ (⟨pid, .Receive slot, now⟩, .Message msg) :: later ∧
    ∀ cap ∈ msg.caps,
      (∃ slot held, view.capSpaces.capAt pid slot = some held ∧ held.SameAuthority cap) ∨
      ∃ entry ∈ later, entry.1.pid = pid ∧ entry.1.syscall.GivesUp

end KernelView

namespace KernelCore

variable (eid : EndpointId) (kernel : KernelCore) (call : TypedCall)

def typedResult : List (TypedCall × SyscallResult) :=
  [(call, (kernel.handleSyscall call.pid call.syscall call.now).result)]

def Survives : Prop :=
  eid ∈ (kernel.typedStep call).endpoints ∧
    (kernel.nextEndpointId = eid → (kernel.typedStep call).nextEndpointId = kernel.nextEndpointId)

-- A receive that passes its check for the endpoint finds no capabilities in the front message.
def ReceivesNoCaps : Prop :=
  ∀ slot endpoint msg rest, call.syscall = .Receive slot →
    kernel.validateReceiveCap call.pid slot call.now = .ok eid →
    kernel.endpoints[eid]? = some endpoint → endpoint.pendingMessages = msg :: rest →
    msg.transferredCaps = []

end KernelCore

lemma attached_of_setQueue {view : KernelView} (hg : view.endpoints[eid]? = some ep)
    (hm : msg ∈ queue) : (view.setQueue eid queue).Attached eid msg := by
  refine ⟨{ ep with queue }, ?_, hm⟩
  simp only [setQueue, get_modify, ite_true, hg, Option.map_some]

lemma attached_setQueue {view : KernelView} (ha : view.Attached eid msg)
    (hge : view.endpoints[other]? = some ep) (hk : other = eid → msg ∈ ep.queue → msg ∈ queue) :
    (view.setQueue other queue).Attached eid msg := by
  obtain ⟨found, hg, hm⟩ := ha
  unfold Attached setQueue
  simp only [get_modify]
  by_cases he : other = eid
  · subst he
    rw [hge] at hg
    cases hg
    exact ⟨{ ep with queue }, by simp [hge], hk rfl hm⟩
  · exact ⟨found, by simp [he, hg], hm⟩

-- A queued message stays queued over a call that does not receive it, as long as its
-- endpoint survives.
lemma SyscallStep.attached (ht : SyscallStep pid now view syscall result commits view')
    (ha : view.Attached eid msg) (hl : eid ∈ view'.endpoints)
    (hs : view.nextEndpointId = eid → view'.nextEndpointId = view.nextEndpointId)
    (hr : ∀ slot cap ep rest, syscall = .Receive slot →
      view.capSpaces.capAt pid slot = some cap → cap.objectType = .Endpoint →
      cap.permissions.read = true → cap.isExpired now = false → cap.objectId = eid →
      view.endpoints[eid]? = some ep → ep.queue ≠ msg :: rest) : view'.Attached eid msg := by
  cases ht with
  | Refused | Query | Empty | BurnId | CapGrant | CapDerive | CapRemove | Exit => exact ha
  | CreateEndpoint =>
    have hn : view.nextEndpointId ≠ eid := by
      intro he
      exact absurd (hs he) (by simp [putSpace, burnCapId, addEndpoint])
    obtain ⟨ep, hg, hm⟩ := ha
    exact ⟨ep, (get_insert_ne hn).trans hg, hm⟩
  | FailEndpoint =>
    have hn : view.nextEndpointId ≠ eid := by
      intro he
      exact absurd (hs he) (by simp [burnCapId, failEndpoint])
    obtain ⟨ep, hg, hm⟩ := ha
    exact ⟨ep, (get_erase_ne _ hn).trans hg, hm⟩
  | Send _ _ _ _ _ _ _ _ _ _ _ _ hg =>
    exact attached_setQueue ha hg fun _ hm => mem_append_left _ hm
  | SendWithCaps _ _ _ slots _ _ cs _ _ _ hg =>
    have hp : (view.putSpace pid (cs.takeAll slots).1).Attached eid msg := ha
    exact attached_setQueue hp hg fun _ hm => mem_append_left _ hm
  | Receive _ cap _ _ _ hh hy hd hv hg hq =>
    refine attached_setQueue ha hg ?_
    intro he hm
    rw [hq] at hm
    rcases mem_cons.mp hm with rfl | hrs
    · exact absurd hq (hr _ cap _ _ rfl hh hy hd hv he (he ▸ hg))
    · exact hrs
  | Kill =>
    obtain ⟨ep, hg, hm⟩ := ha
    obtain ⟨_, hk⟩ := (mem_iff ..).mp hl
    simp only [dropProcess, get_filter] at hk
    rw [Option.eq_some_of_filter_eq_some hk] at hg
    cases hg
    exact ⟨ep, get_filter.trans hk, hm⟩

namespace KernelCore

lemma attached_typedStep {kernel : KernelCore} {call : TypedCall} (hc : msg.caps ≠ [])
    (ha : kernel.view.Attached eid msg)
    (ho : kernel.Survives eid call ∧ kernel.ReceivesNoCaps eid call) :
    (kernel.typedStep call).view.Attached eid msg := by
  obtain ⟨⟨hl, hs⟩, hr⟩ := ho
  refine (kernel.handleSyscall_step ..).attached ha ((mem_view_endpoints _ eid).mpr hl) hs ?_
  intro slot cap ep rest hca hh ht he hi hd hg hf
  rw [view_endpoints_get] at hg
  obtain ⟨found, hgo, rfl⟩ := Option.map_eq_some_iff.mp hg
  have hv := (kernel.validateReceiveCap_ok_iff call.pid slot call.now eid).mpr
    ⟨cap, hh, ht, he, hi, hd⟩
  have hn := hr slot found msg rest hca hv hgo hf
  exact hc (by rw [Message.caps, hn, map_nil])

lemma attached_run (hca : msg.caps ≠ []) (ha : kernel.view.Attached eid msg)
    (hc : Run.Along typedStep (fun kernel call => kernel.Survives eid call ∧
      kernel.ReceivesNoCaps eid call) kernel calls) :
    (Run.run typedStep kernel calls).view.Attached eid msg :=
  Run.run_invariant typedStep _ (fun kernel => kernel.view.Attached eid msg)
    (fun _ _ ha hc => attached_typedStep hca ha hc) ha hc

lemma sent_of_removed {kernel : KernelCore} (hh : kernel.capSpaces.capAt pid removed = some cap)
    (hr : (kernel.handleSyscall pid (.SendWithCaps slot tag data slots)
      now).kernel.capSpaces.capAt pid removed = none) :
    ∃ eid msg, kernel.validateSendCapBasic pid slot = .ok eid ∧ cap ∈ msg.caps ∧
      (kernel.handleSyscall pid (.SendWithCaps slot tag data slots) now).kernel.view.Attached
        eid msg := by
  have hc : (kernel.handleSyscall pid (.SendWithCaps slot tag data slots) now).kernel =
      ((kernel.updateSyscallMetrics pid now).ipcSendWithCaps pid slot tag data slots
        now).kernel := rfl
  rw [hc] at hr ⊢
  rcases (kernel.updateSyscallMetrics pid now).ipcSendWithCaps_cases pid slot tag data slots
    now with ⟨e, he⟩ | ⟨eid, _, cs, _, -, ha, hg, hs, -, he, hv⟩
  · rw [he] at hr
    exact absurd (hh.symm.trans hr) (by simp)
  · rw [he] at hr ⊢
    rw [← view_capSpaces, hv] at hr
    rw [hv]
    refine ⟨eid, ⟨pid, tag, data, inFlight (cs.takeAll slots).2⟩, ha, ?_, ?_⟩
    · simp only [setQueue, putSpace, CapSpaces.capAt_insert] at hr
      have hg : cs.get removed = some cap := (CapSpaces.capAt_of_get hs ..).symm.trans hh
      have hm := CapabilitySpace.mem_takeAll_of_removed hg hr
      rw [Message.caps, map_capability_inFlight]
      exact mem_map_of_mem hm
    · exact attached_of_setQueue (kernel.view_endpoints_of_get hg)
        (mem_append_right _ (mem_singleton_self _))

-- Until some receive takes a message with capabilities out of the endpoint, what was sent
-- there is accounted for.
theorem accounted_of_send {kernel : KernelCore} {pid : ProcessId} {slot removed : CapSlot}
    {tag : UInt32} {data : List UInt8} {capSlots : List CapSlot} {now : UInt64} {cap : Capability}
    {after : KernelCore}
    (hsend : (kernel.handleSyscall pid (.SendWithCaps slot tag data capSlots) now).kernel = after)
    (hheld : kernel.capSpaces.capAt pid removed = some cap)
    (hremoved : after.capSpaces.capAt pid removed = none) :
    ∃ eid msg, kernel.validateSendCapBasic pid slot = .ok eid ∧ cap ∈ msg.caps ∧
      ∀ calls, Run.Along typedStep (fun kernel call => kernel.Survives eid call ∧
          kernel.ReceivesNoCaps eid call) after calls →
        (Run.run typedStep after calls).view.Accounted eid msg
          (Run.observed typedStep typedResult after calls) := by
  subst hsend
  obtain ⟨eid, msg, hv, hc, ha⟩ := sent_of_removed hheld hremoved
  refine ⟨eid, msg, hv, hc, ?_⟩
  intro calls ho
  exact .inl (attached_run (ne_nil_of_mem hc) ha ho)

def twoProcesses : List (UInt64 × Op) :=
  [(0, .RegisterProcess "receiver"), (0, .RegisterProcess "sender"), (0, .CreateEndpoint 1),
    (0, .GrantCapability 1 0 2 Permissions.full), (0, .CreateEndpoint 2)]

def beforeSend : KernelCore := Run.run exec new twoProcesses

-- Process 2 sends its capability on endpoint 2 away.
def afterSend : KernelCore :=
  beforeSend.typedStep ⟨2, .SendWithCaps 0 7 [] [1], 0⟩

def sentCap : Capability := .endpoint 3 2 Permissions.full

-- A later message to the same endpoint.
def laterSend : TypedCall := ⟨2, .Send 0 8 [1], 0⟩

theorem accounted_of_afterSend :
    ∃ eid msg, beforeSend.validateSendCapBasic 2 0 = .ok eid ∧ sentCap ∈ msg.caps ∧
      (afterSend.typedStep laterSend).view.Accounted eid msg
        (Run.observed typedStep typedResult afterSend [laterSend]) := by
  obtain ⟨eid, msg, hv, hc, hr⟩ := @accounted_of_send beforeSend 2 0 1 7 [] [1] 0 sentCap
    afterSend rfl (by decide +kernel) (by decide +kernel)
  have he : beforeSend.validateSendCapBasic 2 0 = .ok 1 := by decide +kernel
  obtain rfl := Except.ok.inj (hv.symm.trans he)
  refine ⟨1, msg, hv, hc, hr [laterSend] ⟨⟨⟨by decide +kernel, fun hn => ?_⟩, ?_⟩, trivial⟩⟩
  · exact absurd hn (by decide +kernel)
  · rintro _ _ _ _ ⟨⟩

-- The owner of endpoint 1 receives the message; the capability is then in no queue and not in
-- the receiver's space.
theorem receive_drops_capability :
    beforeSend.capSpaces.capAt 2 1 = some sentCap ∧ afterSend.capSpaces.capAt 2 1 = none ∧
    (1 : EndpointId) ∈ (afterSend.typedStep ⟨1, .Receive 0, 0⟩).endpoints ∧
    ∀ msg, sentCap ∈ msg.caps →
      ¬ (afterSend.typedStep ⟨1, .Receive 0, 0⟩).view.Accounted 1 msg
        (Run.observed typedStep typedResult afterSend [⟨1, .Receive 0, 0⟩]) := by
  refine ⟨by decide +kernel, by decide +kernel, by decide +kernel, ?_⟩
  intro msg hp ha
  have he : (afterSend.typedStep ⟨1, .Receive 0, 0⟩).view.endpoints[(1 : EndpointId)]? =
      some ⟨1, 1, []⟩ := by decide +kernel
  have hs : (afterSend.typedStep ⟨1, .Receive 0, 0⟩).view.capSpaces[(1 : ProcessId)]? =
      some (CapabilitySpace.new.insert (.endpoint 1 1 Permissions.full)).2 := by decide +kernel
  rcases ha with ⟨_, hg, hm⟩ | ⟨_, later, pid, slot, _, hh, hhe⟩
  · rw [he] at hg
    cases hg
    cases hm
  · obtain ⟨rfl, rfl⟩ : pid = 1 ∧ later = [] := by
      simp only [Run.observed, typedResult, append_nil, cons_eq_append_iff] at hh
      simp at hh
      exact ⟨hh.2.1.1.1, hh.2.2⟩
    rcases hhe sentCap hp with ⟨slot, _, hc, hsa⟩ | ⟨_, hm, -⟩
    · rw [CapSpaces.capAt_of_get hs] at hc
      rcases CapabilitySpace.eq_or_get_of_get_insert hc with rfl | hold
      · exact absurd hsa.2.1 (by decide)
      · simp [CapabilitySpace.new, CapabilitySpace.get] at hold
    · cases hm

end KernelCore

end ZeroOS
