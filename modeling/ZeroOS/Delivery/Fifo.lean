import ZeroOS.Kernel.System.Run

/-!
The messages of one endpoint, from the sends that put them on its queue to the
receives that hand them back.
-/

namespace ZeroOS

open List BTreeMap Run
open KernelView

def KernelView.pending (view : KernelView) (eid : EndpointId) : List Message :=
  (view.endpoints[eid]?.map EndpointView.queue).getD []

namespace KernelCore

variable (kernel : KernelCore) (eid : EndpointId) (now : UInt64)

-- The message that a typed call puts on an endpoint.
def sent (pid : ProcessId) : Syscall → List Message
  | .Send slot tag data | .Call slot tag data =>
    if kernel.validateSendCap pid slot now = .ok eid then [⟨pid, tag, data, []⟩] else []
  | .SendWithCaps slot tag data capSlots =>
    match kernel.capSpaces[pid]? with
    | none => []
    | some cspace =>
      if validateMessageLimits data.length capSlots.length = .ok () ∧
          kernel.validateSendCapBasic pid slot = .ok eid ∧
          kernel.validateCapsExist pid capSlots = .ok () then
        [⟨pid, tag, data, inFlight (cspace.takeAll capSlots).2⟩]
      else []
  | _ => []

def taken (pid : ProcessId) (slot : CapSlot) : List Message :=
  if kernel.validateReceiveCap pid slot now = .ok eid then
    (kernel.receivable pid slot now).take 1
  else []

end KernelCore

namespace System

variable (eid : EndpointId) (system : System) (input : Hal × SystemOp)

-- The messages that a call puts on an endpoint.
def enqueued : List Message :=
  let kernel := system.kernel
  let now := system.uptimeNanos input.1
  match input.2 with
  | .IpcSend pid slot tag data => kernel.sent eid now pid (.Send slot tag data)
  | .IpcSendWithCaps pid slot tag data capSlots =>
    kernel.sent eid now pid (.SendWithCaps slot tag data capSlots)
  | .HandleSyscall pid syscall => kernel.sent eid now pid syscall
  | .ProcessSyscall sender syscallNum args data =>
    if syscallNum = 0x40 then kernel.sent eid now sender (.Send args.word0 args.word1 data) else []
  | .InjectToInit tag data =>
    match kernel.initEndpoint with
    | none => []
    | some (initEndpoint, _) => if initEndpoint = eid then [⟨0, tag, data, []⟩] else []
  | _ => []

-- What a receive on an endpoint hands back to its caller, as bytes. A raw receive has a
-- message when its result is 1; the bytes are then the response data.
def handedBack : List (List UInt8) :=
  let checked := fun pid slot =>
    system.kernel.validateReceiveCap pid slot (system.uptimeNanos input.1) = .ok eid
  match input.2 with
  | .IpcReceive pid slot =>
    match (system.ipcReceive input.1 pid slot).2 with
    | .ok (some msg) => if checked pid slot then [serializeIpcMessage msg] else []
    | _ => []
  | .IpcReceiveWithCaps pid slot =>
    match (system.ipcReceiveWithCaps input.1 pid slot).2 with
    | .ok (some (msg, _)) => if checked pid slot then [serializeIpcMessage msg] else []
    | _ => []
  | .HandleSyscall pid (.Receive slot) =>
    match (system.handleSyscall input.1 pid (.Receive slot)).2 with
    | .Message msg => if checked pid slot then [serializeIpcMessage msg] else []
    | _ => []
  | .ProcessSyscall sender syscallNum args data =>
    let (_, result, _, responseData) := system.processSyscall input.1 sender syscallNum args data
    if syscallNum = 0x41 ∧ checked sender args.word0 ∧ result = 1 then [responseData] else []
  | _ => []

def received : List Message :=
  let kernel := system.kernel
  let now := system.uptimeNanos input.1
  match input.2 with
  | .IpcReceive pid slot => kernel.taken eid now pid slot
  | .IpcReceiveWithCaps pid slot => kernel.taken eid now pid slot
  | .HandleSyscall pid (.Receive slot) => kernel.taken eid now pid slot
  | .ProcessSyscall sender syscallNum args _ =>
    if syscallNum = 0x41 then kernel.taken eid now sender args.word0 else []
  | _ => []

-- The endpoint is there before and after the call and is not a new one under an old id.
def Lives : Prop :=
  eid ∈ system.kernel.endpoints ∧ eid ∈ (system.step input).kernel.endpoints ∧
    (system.kernel.nextEndpointId = eid →
      (system.step input).kernel.nextEndpointId = system.kernel.nextEndpointId)

instance : Decidable (Lives eid system input) := inferInstanceAs (Decidable (_ ∧ _ ∧ (_ → _)))

-- A raw receive on the endpoint finds at most one message.
def ReceivesSingly : Prop :=
  ∀ sender args data, input.2 = .ProcessSyscall sender 0x41 args data →
    system.kernel.validateReceiveCap sender args.word0 (system.uptimeNanos input.1) = .ok eid →
    (system.kernel.view.pending eid).length ≤ 1

end System

namespace KernelView

variable {view view' : KernelView} {eid : EndpointId}

lemma pending_of_get (hg : view.endpoints[eid]? = some ep) : view.pending eid = ep.queue := by
  simp only [pending, hg, Option.map_some, Option.getD_some]

lemma pending_setQueue (hg : view.endpoints[other]? = some ep) :
    (view.setQueue other queue).pending eid = if other = eid then queue else view.pending eid := by
  unfold pending setQueue
  simp only [get_modify]
  by_cases he : other = eid
  · subst he
    simp [hg]
  · simp [he]

lemma pending_dropProcess (hl : eid ∈ (view.dropProcess pid).endpoints) :
    (view.dropProcess pid).pending eid = view.pending eid := by
  obtain ⟨ep, hg⟩ := (mem_iff ..).mp hl
  have ho : view.endpoints[eid]? = some ep := by
    simp only [dropProcess, get_filter] at hg
    exact Option.eq_some_of_filter_eq_some hg
  rw [pending_of_get hg, pending_of_get ho]

end KernelView

namespace KernelCore

variable (kernel : KernelCore) {eid : EndpointId}

lemma ipcSend_pending (pid : ProcessId) (slot : CapSlot) (tag : UInt32) (data : List UInt8)
    (now : UInt64) (hl : eid ∈ kernel.endpoints) :
    (kernel.ipcSend pid slot tag data now).1.view.pending eid =
      kernel.view.pending eid ++ kernel.sent eid now pid (.Send slot tag data) := by
  simp only [sent]
  rcases kernel.ipcSend_cases pid slot tag data now with
    ⟨e, hn, hq⟩ | ⟨other, _, _, hv, hg, hq, hi⟩
  · have hr : kernel.validateSendCap pid slot now ≠ .ok eid :=
      fun hv => not_mem_iff.mpr (hn eid hv) hl
    rw [hq, if_neg hr, append_nil]
  · rw [hq, hv, hi, pending_setQueue (kernel.view_endpoints_of_get hg)]
    by_cases he : other = eid
    · subst he
      rw [if_pos rfl, if_pos rfl, pending_of_get (kernel.view_endpoints_of_get hg)]
      rfl
    · rw [if_neg he, if_neg (fun h => he (Except.ok.inj h)), append_nil]

lemma ipcSendWithCaps_pending (pid : ProcessId) (slot : CapSlot) (tag : UInt32)
    (data : List UInt8) (slots : List CapSlot) (now : UInt64) (hlv : eid ∈ kernel.endpoints) :
    (kernel.ipcSendWithCaps pid slot tag data slots now).kernel.view.pending eid =
      kernel.view.pending eid ++ kernel.sent eid now pid (.SendWithCaps slot tag data slots) := by
  simp only [sent]
  rcases kernel.ipcSendWithCaps_cases pid slot tag data slots now with
    ⟨e, hq⟩ |
    ⟨other, ep, cs, kernel', hl, hv, hg, hc, ha, hq, hi⟩
  · rw [hq]
    cases hc : kernel.capSpaces[pid]? with
    | none => rw [append_nil]
    | some =>
      -- An endpoint that exists and all the checks leave no reason to refuse.
      have hr : ¬ (validateMessageLimits data.length slots.length = .ok () ∧
          kernel.validateSendCapBasic pid slot = .ok eid ∧
          kernel.validateCapsExist pid slots = .ok ()) := by
        rintro ⟨hl, hv, ha⟩
        obtain ⟨ep, hg⟩ := (mem_iff ..).mp hlv
        obtain ⟨_, ho, -⟩ := kernel.ipcSendWithCaps_of_valid tag now hl hv hg hc ha
        rw [hq] at ho
        cases ho
      dsimp only
      rw [if_neg hr, append_nil]
  · have hv' : kernel'.view.pending eid = (kernel.view.setQueue other (ep.pendingMessages ++
        [⟨pid, tag, data, inFlight (cs.takeAll slots).2⟩])).pending eid := by
      rw [hi]
      rfl
    rw [hq, hc]
    dsimp only
    rw [hv', pending_setQueue (kernel.view_endpoints_of_get hg), hl, hv, ha]
    by_cases he : other = eid
    · subst he
      rw [if_pos rfl, if_pos ⟨rfl, rfl, rfl⟩, pending_of_get (kernel.view_endpoints_of_get hg)]
      rfl
    · rw [if_neg he, if_neg (fun h => he (Except.ok.inj h.2.1)), append_nil]

lemma taken_of_none (hn : kernel.receivable pid slot now = []) :
    kernel.taken eid now pid slot = [] := by
  rw [taken, hn]
  split_ifs <;> rfl

lemma taken_of_popped (hv : kernel.validateReceiveCap pid slot now = .ok other)
    (hg : kernel.endpoints[other]? = some ep) (hq : ep.pendingMessages = msg :: rest) :
    kernel.view.pending eid =
      kernel.taken eid now pid slot ++ (kernel.view.setQueue other rest).pending eid := by
  rw [taken, kernel.receivable_of_valid hv hg, hv, hq,
    pending_setQueue (kernel.view_endpoints_of_get hg)]
  by_cases he : other = eid
  · subst he
    rw [if_pos rfl, if_pos rfl, pending_of_get (kernel.view_endpoints_of_get hg)]
    exact hq
  · rw [if_neg he, if_neg (fun h => he (Except.ok.inj h)), nil_append]

lemma ipcReceive_pending (pid : ProcessId) (slot : CapSlot) (now : UInt64) :
    kernel.view.pending eid =
      kernel.taken eid now pid slot ++ (kernel.ipcReceive pid slot now).1.view.pending eid := by
  rcases kernel.ipcReceive_cases pid slot now with
    ⟨e, hn, he⟩ | ⟨other, ep, hv, hg, hq, he⟩ |
    ⟨other, ep, _, _, _, hv, hg, hq, he, hi⟩
  · rw [he, kernel.taken_of_none hn, nil_append]
  · rw [he, kernel.taken_of_none ((kernel.receivable_of_valid hv hg).trans hq), nil_append]
  · rw [he, hi]
    exact kernel.taken_of_popped hv hg hq

lemma ipcReceiveWithCaps_pending (pid : ProcessId) (slot : CapSlot) (now : UInt64) :
    kernel.view.pending eid = kernel.taken eid now pid slot ++
      (kernel.ipcReceiveWithCaps pid slot now).kernel.view.pending eid := by
  rcases kernel.ipcReceiveWithCaps_cases pid slot now with
    ⟨e, hn, he⟩ | ⟨other, ep, hv, hg, hq, he⟩ |
    ⟨other, ep, _, _, _, _, hv, hg, -, hq, he, hi⟩
  · rw [he, kernel.taken_of_none hn, nil_append]
  · rw [he, kernel.taken_of_none ((kernel.receivable_of_valid hv hg).trans hq), nil_append]
  · rw [he, hi]
    exact kernel.taken_of_popped hv hg hq

end KernelCore

def Syscall.IsQuiet : Syscall → Prop
  | .Send .. | .Call .. | .SendWithCaps .. | .Receive _ => False
  | _ => True

lemma SyscallStep.pending (ht : SyscallStep pid now view syscall result commits view')
    (hq : syscall.IsQuiet) (hl : eid ∈ view'.endpoints)
    (hs : view.nextEndpointId = eid → view'.nextEndpointId = view.nextEndpointId) :
    view'.pending eid = view.pending eid := by
  cases ht with
  | Refused | Query | Empty | BurnId | CapGrant | CapDerive | CapRemove | Exit => rfl
  | CreateEndpoint =>
    have hn : view.nextEndpointId ≠ eid := by
      intro he
      exact absurd (hs he) (by simp [putSpace, burnCapId, addEndpoint])
    simp only [KernelView.pending, putSpace, burnCapId, addEndpoint, get_insert_ne hn]
  | FailEndpoint =>
    have hn : view.nextEndpointId ≠ eid := by
      intro he
      exact absurd (hs he) (by simp [burnCapId, failEndpoint])
    simp only [KernelView.pending, burnCapId, failEndpoint, get_erase_ne _ hn]
  | Send _ _ _ _ _ _ _ hc =>
    rcases hc with rfl | rfl
    · exact hq.elim
    · exact hq.elim
  | SendWithCaps | Receive => exact hq.elim
  | Kill => exact pending_dropProcess hl

def Op.IsQuiet : Op → Prop
  | .IpcSend .. | .IpcSendWithCaps .. | .IpcReceive .. | .IpcReceiveWithCaps .. => False
  | .HandleSyscall _ syscall => syscall.IsQuiet
  | _ => True

namespace KernelCore

variable (kernel : KernelCore) {eid : EndpointId}

lemma typed_pending (ht : op.typed = some (pid, syscall))
    (hq : syscall.IsQuiet) (hl : eid ∈ (kernel.perform now op).1.endpoints)
    (hs : kernel.nextEndpointId = eid →
      (kernel.perform now op).1.nextEndpointId = kernel.nextEndpointId) :
    (kernel.perform now op).1.view.pending eid = kernel.view.pending eid := by
  obtain ⟨_, hst⟩ := kernel.perform_step now ht
  exact hst.pending hq ((mem_view_endpoints ..).mpr hl) hs

lemma grantToEndpoint_endpoints {id : EndpointId} {now : UInt64} :
    (kernel.grantCapabilityToEndpoint ownerPid id toPid perms now).kernel.view.endpoints =
        kernel.view.endpoints ∧
      (kernel.grantCapabilityToEndpoint ownerPid id toPid perms now).kernel.nextEndpointId =
        kernel.nextEndpointId := by
  rcases kernel.grantCapabilityToEndpoint_cases ownerPid id toPid perms now with
    ⟨e, -, he⟩ | ⟨_, _, _, _, he⟩ | ⟨_, _, _, _, _, he⟩
  · rw [he]
    exact ⟨rfl, rfl⟩
  · rw [he]
    exact ⟨rfl, rfl⟩
  · rw [he]
    exact ⟨rfl, rfl⟩

lemma pending_of_endpoints {view view' : KernelView} (he : view'.endpoints = view.endpoints) :
    view'.pending eid = view.pending eid := by
  simp only [KernelView.pending, he]

lemma perform_pending (hq : op.IsQuiet)
    (hl : eid ∈ (kernel.perform now op).1.endpoints) (hs : kernel.nextEndpointId = eid →
      (kernel.perform now op).1.nextEndpointId = kernel.nextEndpointId) :
    (kernel.perform now op).1.view.pending eid = kernel.view.pending eid := by
  have hl' := (mem_view_endpoints ..).mpr hl
  cases op with
  | RegisterProcess => rfl
  | RegisterProcessWithParent => rfl
  | RegisterProcessWithPid pid name =>
    simp only [perform]
    rcases kernel.registerProcessWithPid_cases pid name now with ⟨_, he⟩ | ⟨_, _, he, hv⟩
    · rw [he]
    · rw [he]
      simp only [hv]
      rfl
  | KillProcess =>
    simp only [perform, view_killProcess] at hl' ⊢
    exact pending_dropProcess hl'
  | FaultProcess =>
    simp only [perform, faultProcess, view_killProcess] at hl' ⊢
    exact pending_dropProcess hl'
  | GrantCapabilityToEndpoint => exact pending_of_endpoints (kernel.grantToEndpoint_endpoints).1
  | AllocateMemory => simp only [perform, view_allocateMemory]
  | FreeMemory => simp only [perform, view_freeMemory]
  | UpdateProcessMemory => simp only [perform, view_updateProcessMemory]
  | HandleSyscall => exact kernel.typed_pending rfl hq hl hs
  | KillProcessWithCapCheck | CreateEndpoint | GrantCapability | RevokeCapability
  | DeleteCapability | DeriveCapability => exact kernel.typed_pending rfl trivial hl hs
  | IpcSend | IpcSendWithCaps | IpcReceive | IpcReceiveWithCaps => exact hq.elim

lemma performFor_pending (hl : eid ∈ (kernel.performFor now target).1.endpoints)
    (hs : kernel.nextEndpointId = eid →
      (kernel.performFor now target).1.nextEndpointId = kernel.nextEndpointId) :
    (kernel.performFor now target).1.view.pending eid = kernel.view.pending eid := by
  unfold performFor at hl hs ⊢
  have hq : Op.IsQuiet (.CreateEndpoint target) := trivial
  generalize hn : kernel.createEndpoint target now = created at hl hs ⊢
  have hp : (kernel.perform now (.CreateEndpoint target)).1 = created.kernel := by
    rw [← hn]
    rfl
  cases hr : created.result with
  | error =>
    simp only [hr] at hl hs ⊢
    rw [← hp] at hl hs ⊢
    exact kernel.perform_pending hq hl hs
  | ok value =>
    obtain ⟨id, _⟩ := value
    simp only [hr] at hl hs ⊢
    obtain ⟨he, hx⟩ := created.kernel.grantToEndpoint_endpoints
    rw [← mem_view_endpoints, he, mem_view_endpoints, ← hp] at hl
    rw [hx, ← hp] at hs
    rw [pending_of_endpoints he, ← hp]
    exact kernel.perform_pending hq hl hs

lemma performReceive_pending (hsi : kernel.validateReceiveCap pid slot now = .ok eid →
      (kernel.view.pending eid).length ≤ 1) :
    kernel.view.pending eid =
      kernel.taken eid now pid slot ++ (kernel.performReceive now pid slot).1.view.pending eid := by
  unfold performReceive
  rcases kernel.ipcReceive_cases pid slot now with
    ⟨e, hn, heq⟩ | ⟨other, ep, hv, hg, hq, heq⟩ |
    ⟨other, ep, _, _, popped, hv, hg, hq, heq, hi⟩
  · rw [heq, kernel.taken_of_none hn, nil_append]
  · rw [heq, kernel.taken_of_none ((kernel.receivable_of_valid hv hg).trans hq), nil_append]
  · rw [heq]
    dsimp only [perform]
    have hs := @ipcReceiveWithCaps_pending popped eid pid slot now
    have hn : popped.taken eid now pid slot = [] := by
      by_cases he : other = eid
      · subst he
        apply popped.taken_of_none
        have hl := hsi hv
        rw [pending_of_get (kernel.view_endpoints_of_get hg)] at hl
        change ep.pendingMessages.length ≤ 1 at hl
        rw [hq, length_cons] at hl
        rw [kernel.receivable_of_setQueue hv hg hi]
        exact eq_nil_of_length_eq_zero (by omega)
      · have hc : popped.capSpaces = kernel.capSpaces := congrArg KernelView.capSpaces hi
        rw [taken, validateReceiveCap_of_capSpaces hc, hv, if_neg (fun h => he (Except.ok.inj h))]
    rw [hn, nil_append] at hs
    rw [← hs, hi]
    exact kernel.taken_of_popped hv hg hq

lemma performRaw_pending (h40 : num ≠ 0x40) (h41 : num ≠ 0x41) (hl : eid ∈
      (kernel.performRaw now sender (.decode sender num args data)).1.endpoints)
    (hs : kernel.nextEndpointId = eid →
      (kernel.performRaw now sender (.decode sender num args data)).1.nextEndpointId =
        kernel.nextEndpointId) :
    (kernel.performRaw now sender (.decode sender num args data)).1.view.pending eid =
      kernel.view.pending eid := by
  have hd := RawCall.decodes sender num args data
  generalize RawCall.decode sender num args data = call at hd hl hs ⊢
  cases hd with
  | Exit | Kill | Register | Spawn | Grant | Delete | CreateEndpoint =>
    exact kernel.perform_pending trivial hl hs
  | EndpointFor => exact kernel.performFor_pending hl hs
  | Send => exact absurd rfl h40
  | Receive => exact absurd rfl h41
  | NoRegister | NoEndpointFor | NoSpawn | Other => rfl

lemma taken_updateSyscallMetrics :
    (kernel.updateSyscallMetrics caller now).taken eid now pid slot =
      kernel.taken eid now pid slot := rfl

-- What a receive takes is what it returns.

lemma taken_eq_ipcReceive (eid : EndpointId) (pid : ProcessId) (slot : CapSlot) :
    kernel.taken eid now pid slot =
      match (kernel.ipcReceive pid slot now).2 with
      | .ok (some msg) => if kernel.validateReceiveCap pid slot now = .ok eid then [msg] else []
      | _ => [] := by
  rcases kernel.ipcReceive_cases pid slot now with
    ⟨e, hn, he⟩ | ⟨other, ep, hv, hg, hq, he⟩ |
    ⟨other, ep, msg, _, _, hv, hg, hq, he, -⟩
  · rw [he, kernel.taken_of_none hn]
  · rw [he, kernel.taken_of_none ((kernel.receivable_of_valid hv hg).trans hq)]
  · rw [he, taken, kernel.receivable_of_valid hv hg, hq]
    rfl

lemma taken_eq_ipcReceiveWithCaps (eid : EndpointId) (pid : ProcessId) (slot : CapSlot) :
    kernel.taken eid now pid slot =
      match (kernel.ipcReceiveWithCaps pid slot now).result with
      | .ok (some (msg, _)) => if kernel.validateReceiveCap pid slot now = .ok eid then [msg] else []
      | _ => [] := by
  rcases kernel.ipcReceiveWithCaps_cases pid slot now with
    ⟨e, hn, he⟩ | ⟨other, ep, hv, hg, hq, he⟩ |
    ⟨other, ep, _, msg, _, _, hv, hg, -, hq, he, -⟩
  · rw [he, kernel.taken_of_none hn]
  · rw [he, kernel.taken_of_none ((kernel.receivable_of_valid hv hg).trans hq)]
  · rw [he, taken, kernel.receivable_of_valid hv hg, hq]
    rfl

end KernelCore

lemma map_ite_singleton {cond : Prop} [Decidable cond] :
    (if cond then [x] else []).map image = if cond then [image x] else [] := by
  split_ifs
  · rfl
  · rfl

lemma serializeIpcMessage_ne_nil : serializeIpcMessage msg ≠ [] := by
  simp [serializeIpcMessage]

namespace System

open KernelCore

variable {eid : EndpointId} {system : System}

lemma processSyscall_receive (system : System) (hal : Hal) (sender : ProcessId)
    (args : SyscallArgs) (data : List UInt8) :
    (system.processSyscall hal sender 0x41 args data).2.1 =
        (match (system.kernel.ipcReceive sender args.word0 (system.uptimeNanos hal)).2 with
          | .ok (some _) => (1 : Int64)
          | .ok none => 0
          | .error _ => -1) ∧
      ∀ msg, (system.kernel.ipcReceive sender args.word0 (system.uptimeNanos hal)).2 = .ok (some msg) →
        (system.processSyscall hal sender 0x41 args data).2.2.2 = serializeIpcMessage msg := by
  simp only [processSyscall, executeSyscallKernelFn_receive]
  generalize system.kernel.ipcReceive sender args.word0 (system.uptimeNanos hal) = outcome
  obtain ⟨_, e | _ | msg⟩ := outcome
  · exact ⟨rfl, nofun⟩
  · exact ⟨rfl, nofun⟩
  · refine ⟨rfl, ?_⟩
    rintro _ ⟨⟩
    exact if_pos serializeIpcMessage_ne_nil

lemma handedBack_eq :
    handedBack eid system input = (received eid system input).map serializeIpcMessage := by
  obtain ⟨hal, op⟩ := input
  cases op with
  | IpcReceive pid slot =>
    simp only [handedBack, received, taken_eq_ipcReceive, System.ipcReceive]
    cases (system.kernel.ipcReceive pid slot (system.uptimeNanos hal)).2 with
    | error => rfl
    | ok found =>
      cases found with
      | none => rfl
      | some => exact map_ite_singleton.symm
  | IpcReceiveWithCaps pid slot =>
    simp only [handedBack, received, taken_eq_ipcReceiveWithCaps, System.ipcReceiveWithCaps,
      commitOutcome]
    cases (system.kernel.ipcReceiveWithCaps pid slot (system.uptimeNanos hal)).result with
    | error => rfl
    | ok found =>
      cases found with
      | none => rfl
      | some => exact map_ite_singleton.symm
  | HandleSyscall pid syscall =>
    cases syscall with
    | Receive slot =>
      simp only [handedBack, received, System.handleSyscall, KernelCore.handleSyscall,
        dispatchSyscall, handleReceive]
      rw [← system.kernel.taken_updateSyscallMetrics, taken_eq_ipcReceive]
      generalize hc : (system.kernel.updateSyscallMetrics pid _).ipcReceive pid slot _ = outcome
      obtain ⟨_, e | _ | msg⟩ := outcome
      · rfl
      · rfl
      · exact map_ite_singleton.symm
    | _ => rfl
  | ProcessSyscall sender num args data =>
    by_cases hn : num = 0x41
    · subst hn
      obtain ⟨hr, hd⟩ := system.processSyscall_receive hal sender args data
      simp only [handedBack, received, true_and, taken_eq_ipcReceive, hr]
      cases hg : (system.kernel.ipcReceive sender args.word0 (system.uptimeNanos hal)).2 with
      | error => exact if_neg (fun h => absurd h.2 (by decide : (-1 : Int64) ≠ 1))
      | ok found =>
        cases found with
        | none => exact if_neg (fun h => absurd h.2 (by decide : (0 : Int64) ≠ 1))
        | some msg =>
          simp only [hd msg hg, and_true]
          exact map_ite_singleton.symm
    · simp only [handedBack, received, hn, false_and, ite_false, map_nil]
  | _ => rfl

-- What was pending and what the call puts on the queue is what it hands back, followed by
-- what is pending after it.
def Balanced (eid : EndpointId) (system : System) (input : Hal × SystemOp) : Prop :=
  system.kernel.view.pending eid ++ enqueued eid system input =
    received eid system input ++ (system.step input).kernel.view.pending eid

lemma Balanced.of_quiet (hw : op.work = .Core core) (hq : core.IsQuiet)
    (hi : enqueued eid system (hal, op) = []) (ho : received eid system (hal, op) = [])
    (hl : Lives eid system (hal, op)) : Balanced eid system (hal, op) := by
  obtain ⟨-, ha, hs⟩ := hl
  unfold Balanced
  rw [hi, ho, append_nil]
  rw [(system.step_eq hal op).1, hw] at ha hs ⊢
  exact (system.kernel.perform_pending hq ha hs).symm

lemma balanced_handleSyscall (hl : Lives eid system (hal, .HandleSyscall pid syscall)) :
    Balanced eid system (hal, .HandleSyscall pid syscall) := by
  -- The call itself runs after the caller's metrics were updated, on the same queues.
  cases syscall with
  | Send slot tag data | Call slot tag data =>
    have hs := @ipcSend_pending (system.kernel.updateSyscallMetrics pid
      (system.uptimeNanos hal)) eid pid slot tag data (system.uptimeNanos hal) hl.1
    exact hs.symm
  | SendWithCaps slot tag data slots =>
    have hs := @ipcSendWithCaps_pending (system.kernel.updateSyscallMetrics pid
      (system.uptimeNanos hal)) eid pid slot tag data slots (system.uptimeNanos hal) hl.1
    exact hs.symm
  | Receive slot =>
    have hr := @ipcReceive_pending (system.kernel.updateSyscallMetrics pid
      (system.uptimeNanos hal)) eid pid slot (system.uptimeNanos hal)
    exact (append_nil _).trans hr
  | _ => exact Balanced.of_quiet rfl trivial rfl rfl hl

lemma balanced_injectToInit : Balanced eid system (hal, .InjectToInit tag data) := by
  unfold Balanced enqueued received
  rw [(system.step_eq hal (.InjectToInit tag data)).1]
  simp only [SystemOp.work, performWork, inject]
  cases hi : system.kernel.initEndpoint with
  | none => exact append_nil _
  | some entry =>
    obtain ⟨other, ep⟩ := entry
    have hg := (initEndpoint_some hi).1
    dsimp only
    rw [system.kernel.view_putEndpoint other ep _
        (ep.pendingMessages ++ [⟨0, tag, data, []⟩]) hg rfl,
      pending_setQueue (system.kernel.view_endpoints_of_get hg), nil_append]
    by_cases he : other = eid
    · subst he
      rw [if_pos rfl, if_pos rfl, pending_of_get (system.kernel.view_endpoints_of_get hg)]
      rfl
    · rw [if_neg he, if_neg he, append_nil]

lemma balanced_processSyscall (hl : Lives eid system (hal, .ProcessSyscall sender num args data))
    (hs : ReceivesSingly eid system (hal, .ProcessSyscall sender num args data)) :
    Balanced eid system (hal, .ProcessSyscall sender num args data) := by
  obtain ⟨hb, ha, hsa⟩ := hl
  have hv : (system.step (hal, .ProcessSyscall sender num args data)).kernel.view =
      (system.kernel.performRaw (system.uptimeNanos hal) sender
        (.decode sender num args data)).1.view :=
    (system.kernel.rawSyscall_eq hal _ _ _ _ (system.uptimeNanos hal)).1
  unfold Balanced
  rw [hv]
  by_cases h40 : num = 0x40
  · subst h40
    exact (system.kernel.ipcSend_pending _ args.word0 args.word1 _ _ hb).symm
  by_cases h41 : num = 0x41
  · subst h41
    exact (append_nil _).trans (system.kernel.performReceive_pending (hs _ _ _ rfl))
  · rw [← mem_view_endpoints, hv, mem_view_endpoints] at ha
    have hn := congrArg KernelView.nextEndpointId hv
    have hq := system.kernel.performRaw_pending h40 h41 ha (fun he => hn.symm.trans (hsa he))
    simp only [enqueued, received, h40, h41, ite_false, append_nil]
    exact hq.symm

lemma step_balanced (hl : Lives eid system input)
    (hs : ReceivesSingly eid system input) : Balanced eid system input := by
  obtain ⟨_, op⟩ := input
  cases op with
  | IpcSend pid _ tag => exact (system.kernel.ipcSend_pending pid _ tag _ _ hl.1).symm
  | IpcSendWithCaps pid _ tag =>
    exact (system.kernel.ipcSendWithCaps_pending pid _ tag _ _ _ hl.1).symm
  | IpcReceive pid => exact (append_nil _).trans (system.kernel.ipcReceive_pending pid _ _)
  | IpcReceiveWithCaps pid =>
    exact (append_nil _).trans (system.kernel.ipcReceiveWithCaps_pending pid _ _)
  | HandleSyscall => exact balanced_handleSyscall hl
  | InjectToInit => exact balanced_injectToInit
  | ProcessSyscall => exact balanced_processSyscall hl hs
  | _ => exact .of_quiet rfl trivial rfl rfl hl

-- What is handed back along a run is, in order and as bytes, a first part of what was pending
-- at its start and what has been enqueued since; the rest is pending at its end.
def ExactlyOnce (eid : EndpointId) (start : System) (inputs : List (Hal × SystemOp)) : Prop :=
  ∃ delivered,
    start.kernel.view.pending eid ++ Run.observed step (enqueued eid) start inputs =
        delivered ++ (Run.run step start inputs).kernel.view.pending eid ∧
      Run.observed step (handedBack eid) start inputs = delivered.map serializeIpcMessage

-- While an endpoint lives, its messages are delivered once and in order, as long as no raw
-- receive on it finds a second message.
theorem exactlyOnce_of_run (eid : EndpointId) (start : System) (inputs : List (Hal × SystemOp))
    (hcond : Run.Along step (fun system input =>
      Lives eid system input ∧ ReceivesSingly eid system input) start inputs) :
    ExactlyOnce eid start inputs := by
  have hb := run_balance step _ (fun system => system.kernel.view.pending eid)
    (enqueued eid) (fun _ _ h => step_balanced h.1 h.2) hcond
  have hh : handedBack eid =
      fun system input => (received eid system input).map serializeIpcMessage :=
    funext fun system => funext fun input => handedBack_eq
  refine ⟨_, hb, ?_⟩
  rw [hh, observed_map]

def listening : System :=
  let hal := Hal.unsupported 0
  (((System.new hal).registerProcess hal "listener").1.createEndpoint hal 1).1

def rawSend (byte : UInt8) : Hal × SystemOp :=
  (Hal.unsupported 1, .ProcessSyscall 1 0x40 #v[0, 7, 0, 0] [byte])

def rawReceive : Hal × SystemOp := (Hal.unsupported 2, .ProcessSyscall 1 0x41 .zero [])

-- One message at a time arrives.
theorem exactlyOnce_alternating :
    ExactlyOnce 1 listening [rawSend 10, rawReceive, rawSend 20, rawReceive] :=
  exactlyOnce_of_run 1 listening _
    ⟨⟨by decide +kernel, fun _ _ _ _ _ => by decide +kernel⟩,
      ⟨by decide +kernel, fun _ _ _ _ _ => by decide +kernel⟩,
      ⟨by decide +kernel, fun _ _ _ _ _ => by decide +kernel⟩,
      ⟨by decide +kernel, fun _ _ _ _ _ => by decide +kernel⟩, trivial⟩

-- Of two messages that wait, one receive takes both and hands back the first.
theorem not_exactlyOnce_backlog :
    Run.Along step (Lives 1) listening [rawSend 10, rawSend 20, rawReceive] ∧
      ¬ ExactlyOnce 1 listening [rawSend 10, rawSend 20, rawReceive] := by
  refine ⟨⟨by decide +kernel, by decide +kernel, by decide +kernel, trivial⟩, ?_⟩
  rintro ⟨_, hq, hh⟩
  have hi : (listening.kernel.view.pending 1 ++ observed step (enqueued 1) listening
      [rawSend 10, rawSend 20, rawReceive]).length = 2 := by decide +kernel
  have hl : (run step listening [rawSend 10, rawSend 20, rawReceive]).kernel.view.pending 1 =
      [] := by decide +kernel
  have ho : (observed step (handedBack 1) listening
      [rawSend 10, rawSend 20, rawReceive]).length = 1 := by decide +kernel
  rw [hq, hl, append_nil] at hi
  rw [hh, length_map] at ho
  omega

end System

end ZeroOS
