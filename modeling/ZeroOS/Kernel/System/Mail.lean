import ZeroOS.Kernel.System.Run

/-!
What the calls of the system do to the queues of the endpoints.
-/

namespace ZeroOS

open BTreeMap.Every BTreeMap

-- The part of the kernel that keeps and counts messages.
structure Mailboxes where
  endpoints : BTreeMap EndpointId Endpoint
  nextEndpointId : UInt64
  totalIpcCount : UInt64

def KernelCore.mail (kernel : KernelCore) : Mailboxes :=
  ⟨kernel.endpoints, kernel.nextEndpointId, kernel.totalIpcCount⟩

def Endpoint.sent (endpoint : Endpoint) (msg : Message) : Endpoint :=
  { endpoint with
    pendingMessages := endpoint.pendingMessages ++ [msg]
    metrics := KernelCore.sentMetrics endpoint.metrics (endpoint.pendingMessages ++ [msg]).length
      msg.data.length }

def Endpoint.taken (endpoint : Endpoint) (rest : List Message) : Endpoint :=
  { endpoint with
    pendingMessages := rest
    metrics := { endpoint.metrics with queueDepth := rest.length } }

-- One step on the queues, which puts into them only messages as described.
inductive MailStep (injects : Prop) (sends : Message → Prop) (mail : Mailboxes) :
    Mailboxes → Prop where
  | Idle : MailStep injects sends mail mail
  | Open (owner : ProcessId) :
      MailStep injects sends mail { mail with
        endpoints := mail.endpoints.insert mail.nextEndpointId
          ⟨mail.nextEndpointId, owner, [], {}⟩
        nextEndpointId := mail.nextEndpointId + 1 }
  | Fail :
      MailStep injects sends mail { mail with
        endpoints := mail.endpoints.erase mail.nextEndpointId
        nextEndpointId := mail.nextEndpointId + 1 }
  | Close (pid : ProcessId) :
      MailStep injects sends mail { mail with
        endpoints := mail.endpoints.filter fun _ endpoint => endpoint.owner != pid }
  | Send (eid : EndpointId) (endpoint : Endpoint) (msg : Message) (hsends : sends msg)
      (hget : mail.endpoints[eid]? = some endpoint) :
      MailStep injects sends mail { mail with
        endpoints := mail.endpoints.insert eid (endpoint.sent msg)
        totalIpcCount := mail.totalIpcCount + 1 }
  | Inject (eid : EndpointId) (endpoint : Endpoint) (msg : Message) (hsends : sends msg)
      (hget : mail.endpoints[eid]? = some endpoint) (hinjects : injects) :
      MailStep injects sends mail { mail with
        endpoints := mail.endpoints.insert eid
          { endpoint with pendingMessages := endpoint.pendingMessages ++ [msg] } }
  | Take (eid : EndpointId) (endpoint : Endpoint) (msg : Message) (rest : List Message)
      (hget : mail.endpoints[eid]? = some endpoint)
      (hqueue : endpoint.pendingMessages = msg :: rest) :
      MailStep injects sends mail { mail with
        endpoints := mail.endpoints.insert eid (endpoint.taken rest) }

def Message.Bounded (msg : Message) : Prop :=
  msg.data.length ≤ MAX_MESSAGE_SIZE ∧ msg.transferredCaps.length ≤ MAX_CAPS_PER_MESSAGE

-- The message of a send that looks at no limit, or one that was checked.
def Sends (payload : List UInt8) (msg : Message) : Prop :=
  msg.data = payload ∧ msg.transferredCaps = [] ∨ msg.Bounded

namespace KernelCore

variable (kernel : KernelCore)

lemma mail_queued (hg : kernel.endpoints[eid]? = some ep) (fromPid : ProcessId) (msg : Message)
    (timestamp : UInt64) (hs : sends msg) :
    ∃ queued, kernel.queueMessage eid msg = (queued, .ok ()) ∧ MailStep False sends kernel.mail
      (queued.updateSendMetrics fromPid eid msg.data.length timestamp).mail := by
  simp only [queueMessage, hg]
  refine ⟨_, rfl, ?_⟩
  have hi : ∀ e : Endpoint, (kernel.endpoints.insert eid e)[eid]? = some e := by simp
  simp only [mail, updateSendMetrics]
  rw [← insert_eq_modify _ _ _ (hi _), insert_insert]
  exact .Send eid ep msg hs hg

lemma ipcSend_mail :
    MailStep False (Sends data) kernel.mail (kernel.ipcSend fromPid slot tag data now).1.mail := by
  unfold ipcSend
  cases kernel.validateSendCap fromPid slot now with
  | error => exact .Idle
  | ok eid =>
    cases hg : kernel.endpoints[eid]? with
    | none =>
      simp only [queueMessage, hg]
      exact .Idle
    | some =>
      obtain ⟨_, hq, hs⟩ := kernel.mail_queued hg fromPid ⟨fromPid, tag, data, []⟩ now
        (show Sends data _ from .inl ⟨rfl, rfl⟩)
      simp only [hq]
      exact hs

lemma length_takeAll_le (cs : CapabilitySpace) : (cs.takeAll slots).2.length ≤ slots.length := by
  induction slots generalizing cs with
  | nil => exact Nat.le_refl 0
  | cons slot _ ih =>
    have hr := ih (cs.remove slot).2
    unfold CapabilitySpace.takeAll
    cases cs.get slot with
    | none => exact Nat.le_succ_of_le hr
    | some => exact Nat.succ_le_succ hr

lemma validateMessageLimits_ok (hl : validateMessageLimits dataLen capCount = .ok ()) :
    dataLen ≤ MAX_MESSAGE_SIZE ∧ capCount ≤ MAX_CAPS_PER_MESSAGE := by
  unfold validateMessageLimits at hl
  split_ifs at hl with hd hc
  exact ⟨Nat.le_of_not_lt hd, Nat.le_of_not_lt hc⟩

lemma ipcSendWithCaps_mail :
    MailStep False (Sends payload) kernel.mail
      (kernel.ipcSendWithCaps fromPid slot tag data slots now).kernel.mail := by
  rcases kernel.ipcSendWithCaps_cases fromPid slot tag data slots now with
    ⟨_, he⟩ | ⟨eid, ep, cs, _, hl, hv, hg, hc, ha, -, -⟩
  · rw [he]
    exact .Idle
  · have hm : eid ∈ kernel.endpoints := (mem_iff ..).mpr ⟨ep, hg⟩
    have ht := kernel.removeAndTransferCaps_of_get hc slots now
    obtain ⟨hd, hn⟩ := validateMessageLimits_ok hl
    have hb : Message.Bounded ⟨fromPid, tag, data, inFlight (cs.takeAll slots).2⟩ := by
      refine ⟨hd, Nat.le_trans ?_ hn⟩
      simpa [inFlight] using length_takeAll_le cs
    obtain ⟨_, hq, hs⟩ := mail_queued { kernel with
      capSpaces := kernel.capSpaces.insert fromPid (cs.takeAll slots).1 } hg fromPid
      ⟨fromPid, tag, data, inFlight (cs.takeAll slots).2⟩ now
      (show Sends payload _ from .inr hb)
    simp only [ipcSendWithCaps, hl, hv, hm, not_true_eq_false, ite_false, ha, ht, hq]
    exact hs

section

variable {sends : Message → Prop}

variable (pid : ProcessId) (slot : CapSlot) (perms : Permissions) (now : UInt64)

lemma ipcReceive_mail :
    MailStep False sends kernel.mail (kernel.ipcReceive pid slot now).1.mail := by
  unfold ipcReceive
  cases kernel.validateReceiveCap pid slot now with
  | error => exact .Idle
  | ok eid =>
    dsimp only
    cases hg : kernel.endpoints[eid]? with
    | none => exact .Idle
    | some ep =>
      dsimp only
      cases hq : ep.pendingMessages with
      | nil => exact .Idle
      | cons msg rest => exact .Take eid ep msg rest hg hq

lemma ipcReceive_nextEndpointId :
    (kernel.ipcReceive pid slot now).1.nextEndpointId = kernel.nextEndpointId := by
  rcases kernel.ipcReceive_cases pid slot now with
    ⟨_, -, he⟩ | ⟨_, _, -, -, -, he⟩ | ⟨_, _, _, _, _, -, -, -, he, hv⟩
  · rw [he]
  · rw [he]
  · rw [he]
    exact congrArg KernelView.nextEndpointId hv

lemma installTransferredCaps_mail (caps : List TransferredCap) (now : UInt64) :
    (kernel.installTransferredCaps pid caps now).1.mail = kernel.mail := by
  unfold installTransferredCaps
  cases kernel.capSpaces[pid]? with
  | none | some => rfl

lemma ipcReceiveWithCaps_mail :
    MailStep False sends kernel.mail (kernel.ipcReceiveWithCaps pid slot now).kernel.mail := by
  unfold ipcReceiveWithCaps
  have hr : MailStep False sends kernel.mail (kernel.ipcReceive pid slot now).1.mail :=
    kernel.ipcReceive_mail ..
  generalize kernel.ipcReceive pid slot now = received at hr ⊢
  obtain ⟨after, e | _ | message⟩ := received
  · exact hr
  · exact hr
  · have hi := after.installTransferredCaps_mail pid message.transferredCaps now
    dsimp only
    split
    · exact hr
    · generalize after.installTransferredCaps pid message.transferredCaps now = installed at hi ⊢
      obtain ⟨_, e | _⟩ := installed
      · exact hi ▸ hr
      · exact hi ▸ hr

lemma createEndpoint_mail {owner : ProcessId} {now : UInt64} :
    MailStep False sends kernel.mail (kernel.createEndpoint owner now).kernel.mail := by
  unfold createEndpoint
  by_cases ho : owner ∈ kernel.processes
  · simp only [ho, not_true_eq_false, ite_false, grantOwnerEndpointCap_eq]
    cases kernel.capSpaces[owner]? with
    | none =>
      simp only [mail, erase_insert]
      exact .Fail
    | some => exact .Open owner
  · simp only [ho, not_false_eq_true, ite_true]
    exact .Idle

lemma grantCapability_mail (fromPid : ProcessId) (fromSlot : CapSlot) (toPid : ProcessId)
    (perms : Permissions) :
    MailStep False sends kernel.mail
      (kernel.grantCapability fromPid fromSlot toPid perms now).kernel.mail := by
  rcases kernel.grantCapability_cases fromPid fromSlot toPid perms now with
    ⟨_, -, he⟩ | ⟨_, -, -, he⟩ | ⟨_, _, -, -, he⟩
  · rw [he]
    exact .Idle
  · rw [he]
    exact .Idle
  · rw [he]
    exact .Idle

lemma grantCapabilityToEndpoint_mail (ownerPid : ProcessId) (eid : EndpointId)
    (toPid : ProcessId) (perms : Permissions) :
    (kernel.grantCapabilityToEndpoint ownerPid eid toPid perms now).kernel.mail = kernel.mail := by
  rcases kernel.grantCapabilityToEndpoint_cases ownerPid eid toPid perms now with
    ⟨_, -, he⟩ | ⟨_, -, -, -, he⟩ | ⟨_, _, -, -, -, he⟩
  · rw [he]
  · rw [he]
    rfl
  · rw [he]
    rfl

lemma deriveCapability_mail :
    MailStep False sends kernel.mail (kernel.deriveCapability pid slot perms now).kernel.mail := by
  rcases kernel.deriveCapability_cases pid slot perms now with ⟨_, -, he⟩ | ⟨_, _, -, -, he⟩
  · rw [he]
    exact .Idle
  · rw [he]
    exact .Idle

lemma revokeCapability_mail :
    MailStep False sends kernel.mail (kernel.revokeCapability pid slot now).kernel.mail := by
  rcases kernel.revokeCapability_cases pid slot now with ⟨_, he⟩ | ⟨_, _, -, -, -, -, he⟩
  · rw [he]
    exact .Idle
  · rw [he]
    exact .Idle

lemma deleteCapability_mail :
    MailStep False sends kernel.mail (kernel.deleteCapability pid slot now).kernel.mail := by
  rcases kernel.deleteCapability_cases pid slot now with ⟨_, -, he⟩ | ⟨_, _, -, -, he⟩
  · rw [he]
    exact .Idle
  · rw [he]
    exact .Idle

lemma killProcess_mail : MailStep False sends kernel.mail (kernel.killProcess pid now).1.mail := by
  simp only [killProcess, cleanupProcessEndpoints_eq]
  exact .Close pid

lemma killProcessWithCapCheck_mail (caller target : ProcessId) :
    MailStep False sends kernel.mail
      (kernel.killProcessWithCapCheck caller target now).kernel.mail := by
  rcases kernel.killProcessWithCapCheck_cases caller target now with ⟨_, -, he⟩ | ⟨-, -, he⟩
  · rw [he]
    exact .Idle
  · rw [he]
    exact kernel.killProcess_mail ..

end

end KernelCore

-- The data that a call would send without a look at the limits.

def Syscall.payload : Syscall → List UInt8
  | .Send _ _ data => data
  | .Call _ _ data => data
  | _ => []

def Op.payload : Op → List UInt8
  | .IpcSend _ _ _ data => data
  | .HandleSyscall _ syscall => syscall.payload
  | _ => []

def Work.payload : Work → List UInt8
  | .Core op => op.payload
  | .Inject _ data => data
  | .Raw _ syscallNum _ data => if syscallNum = 0x40 then data else []

namespace KernelCore

variable (kernel : KernelCore)

lemma dispatchSyscall_mail :
    MailStep False (Sends syscall.payload) kernel.mail
      (kernel.dispatchSyscall pid syscall now).kernel.mail := by
  cases syscall with
  | CreateEndpoint => exact kernel.createEndpoint_mail
  | Send | Call => exact kernel.ipcSend_mail
  | SendWithCaps => exact kernel.ipcSendWithCaps_mail
  | Receive => exact kernel.ipcReceive_mail ..
  | CapGrant => exact kernel.grantCapability_mail ..
  | CapRevoke => exact kernel.revokeCapability_mail ..
  | CapDelete => exact kernel.deleteCapability_mail ..
  | CapDerive => exact kernel.deriveCapability_mail ..
  | Kill => exact kernel.killProcessWithCapCheck_mail ..
  | _ => exact .Idle

lemma registerProcessWithPid_mail :
    (kernel.registerProcessWithPid pid name now).1.mail = kernel.mail := by
  unfold registerProcessWithPid
  split
  · rfl
  · rfl

lemma allocateMemory_mail : (kernel.allocateMemory pid bytes).1.mail = kernel.mail := by
  unfold allocateMemory
  split
  · rfl
  · rfl

lemma freeMemory_mail : (kernel.freeMemory pid bytes).1.mail = kernel.mail := by
  unfold freeMemory
  split
  · rfl
  · rfl

lemma mailStep_of_eq (he : after = before) : MailStep False sends before after := he ▸ .Idle

lemma perform_mail :
    MailStep False (Sends op.payload) kernel.mail (kernel.perform now op).1.mail := by
  cases op with
  | RegisterProcess | RegisterProcessWithParent | UpdateProcessMemory => exact .Idle
  | RegisterProcessWithPid => exact mailStep_of_eq kernel.registerProcessWithPid_mail
  | KillProcess | FaultProcess => exact kernel.killProcess_mail ..
  | KillProcessWithCapCheck => exact kernel.killProcessWithCapCheck_mail ..
  | CreateEndpoint => exact kernel.createEndpoint_mail
  | GrantCapability => exact kernel.grantCapability_mail ..
  | GrantCapabilityToEndpoint => exact mailStep_of_eq (kernel.grantCapabilityToEndpoint_mail ..)
  | RevokeCapability => exact kernel.revokeCapability_mail ..
  | DeleteCapability => exact kernel.deleteCapability_mail ..
  | DeriveCapability => exact kernel.deriveCapability_mail ..
  | IpcSend => exact kernel.ipcSend_mail
  | IpcSendWithCaps => exact kernel.ipcSendWithCaps_mail
  | IpcReceive => exact kernel.ipcReceive_mail ..
  | IpcReceiveWithCaps => exact kernel.ipcReceiveWithCaps_mail ..
  | HandleSyscall pid => exact (kernel.updateSyscallMetrics pid now).dispatchSyscall_mail
  | AllocateMemory => exact mailStep_of_eq kernel.allocateMemory_mail
  | FreeMemory => exact mailStep_of_eq kernel.freeMemory_mail

end KernelCore

-- A call of the system is one step on the queues, or two that put nothing into them.
def MailSteps (injects : Prop) (sends : Message → Prop) (before after : Mailboxes) : Prop :=
  MailStep injects sends before after ∨
    ∃ between, MailStep False (fun _ => False) before between ∧
      between.nextEndpointId = before.nextEndpointId ∧
        MailStep False (fun _ => False) between after

namespace KernelCore

variable (kernel : KernelCore)

lemma performRaw_single (hp : op.payload = payload) :
    MailSteps False (Sends payload) kernel.mail (kernel.performRaw now sender (.Single op)).1.mail :=
  hp ▸ .inl kernel.perform_mail

lemma performRaw_mail (now : UInt64) (sender : ProcessId) (num : UInt32)
    (args : SyscallArgs) (data : List UInt8) :
    MailSteps False (Sends (Work.Raw sender num args data).payload) kernel.mail
      (kernel.performRaw now sender (.decode sender num args data)).1.mail := by
  have hd := RawCall.decodes sender num args data
  generalize RawCall.decode sender num args data = call at hd ⊢
  cases hd with
  | NoRegister | NoEndpointFor | NoSpawn | Other => exact .inl .Idle
  | Exit | Kill | Register | Spawn | Grant | Delete | CreateEndpoint | Send =>
    exact kernel.performRaw_single rfl
  | EndpointFor =>
    refine .inl ?_
    have hc : MailStep False (Sends []) kernel.mail
        (kernel.createEndpoint args.word0.toUInt64 now).kernel.mail := kernel.createEndpoint_mail
    simp only [performRaw, performFor]
    split
    · exact hc
    · rw [grantCapabilityToEndpoint_mail]
      exact hc
  | Receive =>
    simp only [performRaw, performReceive]
    have hf : MailStep False (fun _ => False) kernel.mail
        (kernel.ipcReceive sender args.word0 now).1.mail := kernel.ipcReceive_mail ..
    have hn := kernel.ipcReceive_nextEndpointId sender args.word0 now
    split
    next after _ he =>
      rw [he] at hf hn
      exact .inr ⟨after.mail, hf, hn, after.ipcReceiveWithCaps_mail ..⟩
    next after _ _ he =>
      rw [he] at hf hn
      exact .inr ⟨after.mail, hf, hn, .Idle⟩

lemma inject_mail :
    MailStep (kernel.initEndpoint ≠ none) (Sends data) kernel.mail
      (kernel.inject tag data).1.mail := by
  unfold inject
  cases hi : kernel.initEndpoint with
  | none => exact .Idle
  | some entry =>
    exact .Inject entry.1 entry.2 ⟨0, tag, data, []⟩ (.inl ⟨rfl, rfl⟩) (initEndpoint_some hi).1
      nofun

def Injects : Work → Prop
  | .Inject _ _ => kernel.initEndpoint ≠ none
  | _ => False

lemma performWork_mail (hal : Hal) (now : UInt64) (work : Work) :
    MailSteps (kernel.Injects work) (Sends work.payload) kernel.mail
      (kernel.performWork hal now work).1.mail := by
  cases work with
  | Core op => exact .inl kernel.perform_mail
  | Inject tag data => exact .inl kernel.inject_mail
  | Raw sender num args data =>
    have hr := kernel.performRaw_mail now sender num args data
    rcases kernel.rawSyscall_cases hal num sender args data now with he | he
    · rw [performWork, he]
      exact hr
    · rw [performWork, he]
      exact hr

end KernelCore

namespace Mailboxes

-- Every message in a queue is within the limits.
def Bounded (mail : Mailboxes) : Prop :=
  BTreeMap.Every mail.endpoints fun endpoint => ∀ msg ∈ endpoint.pendingMessages, msg.Bounded

lemma Bounded.step (hb : Bounded mail) (he : ∀ msg, sends msg → msg.Bounded)
    (hs : MailStep injects sends mail after) : after.Bounded := by
  cases hs with
  | Idle => exact hb
  | Open => exact insert hb _ nofun
  | Fail => exact erase hb _
  | Close =>
    intro eid ep hg
    rw [get_filter, Option.filter_eq_some_iff] at hg
    exact hb eid ep hg.1
  | Send eid ep msg hm hg | Inject eid ep msg hm hg =>
    refine insert hb _ fun other ho => ?_
    rcases List.mem_append.mp ho with hl | hn
    · exact hb eid ep hg other hl
    · rw [List.mem_singleton.mp hn]
      exact he msg hm
  | Take eid ep msg rest hg hq =>
    refine insert hb _ fun other ho => ?_
    exact hb eid ep hg other (hq ▸ List.mem_cons_of_mem _ ho)

lemma Bounded.steps (hb : Bounded mail) (hn : ∀ msg, sends msg → msg.Bounded)
    (hs : MailSteps injects sends mail after) : after.Bounded := by
  rcases hs with ht | ⟨_, hf, -, he⟩
  · exact hb.step hn ht
  · exact (hb.step nofun hf).step nofun he

end Mailboxes

namespace System

-- A send without limits, a raw one or an injection carries no more than a message may.
def Fits (op : SystemOp) : Prop := op.work.payload.length ≤ MAX_MESSAGE_SIZE

lemma bounded_step (system : System) {input : Hal × SystemOp}
    (hb : system.kernel.mail.Bounded) (hf : Fits input.2) :
    (system.step input).kernel.mail.Bounded := by
  rw [(system.step_eq input.1 input.2).1]
  refine hb.steps ?_ (system.kernel.performWork_mail ..)
  rintro msg (⟨hd, hc⟩ | hm)
  · exact ⟨hd ▸ hf, hc ▸ Nat.zero_le _⟩
  · exact hm

-- Every queued message is within the limits, as long as no call sends more.
theorem messages_bounded (boot : Hal) (inputs : List (Hal × SystemOp))
    (hfits : ∀ input ∈ inputs, Fits input.2) :
    (Run.run step (System.new boot) inputs).kernel.mail.Bounded :=
  Run.run_invariant step (fun _ input => Fits input.2) (fun system => system.kernel.mail.Bounded)
    bounded_step (fun _ _ hget => by simp [KernelCore.mail, System.new, KernelCore.new] at hget)
    (Run.along_of_forall_mem step hfits _)

def selfSend (data : List UInt8) : List (Hal × SystemOp) :=
  [(.unsupported 0, .RegisterProcess "process"), (.unsupported 0, .CreateEndpoint 1),
    (.unsupported 0, .IpcSend 1 0 7 data)]

theorem messages_bounded_selfSend :
    (∀ input ∈ selfSend [1], Fits input.2) ∧
      (Run.run step (System.new (.unsupported 0)) (selfSend [1])).kernel.mail.Bounded := by
  have hf : ∀ input ∈ selfSend [1], Fits input.2 := by
    unfold Fits
    decide
  exact ⟨hf, messages_bounded _ _ hf⟩

lemma selfSend_queued :
    (Run.run step (System.new (.unsupported 0)) (selfSend data)).kernel.endpoints[(1 : EndpointId)]?.map
      Endpoint.pendingMessages = some [⟨1, 7, data, []⟩] := by
  rfl

theorem oversized_message_queued :
    ¬ (Run.run step (System.new (.unsupported 0))
      (selfSend (.replicate (MAX_MESSAGE_SIZE + 1) 0))).kernel.mail.Bounded := by
  intro hb
  obtain ⟨ep, hget, hq⟩ := Option.map_eq_some_iff.mp selfSend_queued
  have hm := hb 1 ep hget _ (hq ▸ List.mem_singleton_self _)
  exact absurd hm.1 (by rw [List.length_replicate]; exact Nat.not_succ_le_self _)

end System

end ZeroOS
