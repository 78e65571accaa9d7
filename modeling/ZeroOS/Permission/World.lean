import ZeroOS.Kernel.System.Raw
import ZeroOS.Permission.Ledger
import ZeroOS.Supervisor.Debug

/-!
The permission service at work.
-/

namespace ZeroOS

open SupervisorState KernelCore DebugChannel Permissions

namespace KernelCore

lemma capSpaces_ipcSend {kernel : KernelCore} :
    (kernel.ipcSend fromPid slot tag data now).1.capSpaces = kernel.capSpaces := by
  obtain ⟨e, -, he⟩ | ⟨_, _, _, -, -, he, hv⟩ := kernel.ipcSend_cases fromPid slot tag data now
  · rw [he]
  · rw [he]
    exact congrArg KernelView.capSpaces hv

end KernelCore

lemma toUInt32_slot {slot : UInt32} : slot.toUInt64.toInt64.toInt32.toUInt32 = slot := by
  apply UInt32.toBitVec_inj.mp
  simp [BitVec.signExtend_eq_setWidth_of_le]

namespace SupervisorState

variable (state : SupervisorState)

variable (pid : ProcessId) (syscallNum : UInt32) (args : SyscallArgs) (data : List UInt8)

lemma kernel_gatewayCall :
    (state.gatewayCall pid syscallNum args data).1.system.kernel =
      (state.system.kernel.rawSyscall state.hal syscallNum pid args data
        (state.system.uptimeNanos state.hal)).1 := rfl

lemma result_gatewayCall :
    (state.gatewayCall pid syscallNum args data).2.1 =
      (state.system.kernel.executeSyscallKernelFn state.hal syscallNum pid args data
        (state.system.uptimeNanos state.hal)).result := rfl

lemma capSpaces_sendToInit :
    (state.sendToInit tag payload).system.kernel.capSpaces = state.system.kernel.capSpaces := by
  unfold sendToInit
  cases state.initEndpointSlot with
  | none => rfl
  | some => exact capSpaces_ipcSend

lemma capSpaces_handleDebugConsoleOutput :
    (state.handleDebugConsoleOutput pid msg).system.kernel.capSpaces =
      state.system.kernel.capSpaces := by
  unfold handleDebugConsoleOutput
  split_ifs
  · unfold checkPingpongComplete
    dsimp only
    split
    · split_ifs
      · simp only [progressPingpongTest, routeIpcViaInit, killProcessViaInit, capSpaces_sendToInit,
          writeConsole]
      · rfl
    · rfl
  · rfl

end SupervisorState

namespace Permission

open Vfs (AppMessage)

def SYS_CAP_GRANT : UInt32 := 0x30

def SYS_CAP_REVOKE : UInt32 := 0x31

def SYS_SEND : UInt32 := 0x40

def PERMISSION_SERVICE_PID : ProcessId := 2

def syscall (state : SupervisorState) (syscallNum : UInt32) (args : Vector UInt32 3)
    (data : List UInt8) : SupervisorState × Int32 :=
  match state.processSyscallInternal PERMISSION_SERVICE_PID syscallNum args data with
  | (state, .ok result) => (state, result)
  | (state, .error _) => (state, -1)

-- The wrappers of `zos-process`. A slot is told from an error by one bit.

def slotReply (result : Int32) : Reply :=
  if result.toUInt32 &&& 0x80000000 = 0 then .ok result.toUInt32
  else .error (result.toUInt32 &&& 0x7FFFFFFF)

def statusReply (result : Int32) : Reply :=
  if result = 0 then .ok 0 else .error result.toUInt32

-- What the service works against. `sent` is what it has sent for the message at hand.
structure Machine where
  supervisor : SupervisorState
  made : List (ProcessId × CapSlot)
  sent : List (UInt32 × List UInt8)

def Machine.ledger (machine : Machine) : Ledger :=
  ⟨machine.supervisor.system.kernel.capSpaces, machine.made⟩

def Machine.kernel (machine : Machine) : KernelCore := machine.supervisor.system.kernel

def Machine.time (machine : Machine) : UInt64 :=
  machine.supervisor.system.uptimeNanos machine.supervisor.hal

def Machine.grantedSlots (machine : Machine) (fromSlot toPid : UInt32) (perms : Permissions) :
    List (ProcessId × CapSlot) :=
  if PERMISSION_SERVICE_PID ∈ machine.kernel.processes then
    match (machine.kernel.grantCapability PERMISSION_SERVICE_PID fromSlot toPid.toUInt64 perms
      machine.time).result with
    | .ok slot => [(toPid.toUInt64, slot)]
    | .error _ => []
  else []

-- With a fault, the two capability syscalls fail and do nothing.
def answer (fault : Option UInt32) (machine : Machine) : Call → Machine × Reply
  | .CapGrant fromSlot toPid perms =>
    match fault with
    | some code => (machine, .error code)
    | none =>
      let (supervisor, result) := syscall machine.supervisor SYS_CAP_GRANT
        #v[fromSlot, toPid, perms.toByte.toUInt32] []
      let made := machine.grantedSlots fromSlot toPid perms ++ machine.made
      ({ machine with supervisor, made }, slotReply result)
  | .CapRevokeFrom targetPid slot =>
    match fault with
    | some code => (machine, .error code)
    | none =>
      let (supervisor, result) := syscall machine.supervisor SYS_CAP_REVOKE
        #v[targetPid, slot, 0] []
      let made :=
        if result = 0 then machine.made.filter (· ≠ (targetPid.toUInt64, slot)) else machine.made
      ({ machine with supervisor, made }, statusReply result)
  | .Send slot tag data =>
    let (supervisor, result) := syscall machine.supervisor SYS_SEND
      #v[slot, tag, UInt32.ofNat data.length] data
    ({ machine with supervisor, sent := machine.sent ++ [(tag, data)] }, statusReply result)
  | .Debug text =>
    let data := utf8Bytes (String.ofList text)
    let (supervisor, result) := syscall machine.supervisor SYS_DEBUG
      #v[UInt32.ofNat data.length, 0, 0] data
    ({ machine with supervisor }, statusReply result)

structure World extends Machine where
  service : PermissionService

def World.start (supervisor : SupervisorState) : World where
  supervisor
  made := []
  sent := []
  service := PermissionService.started

-- A message for the service, with the endpoint that it answers to and a fault or not; a process
-- that ends; and anything else that happens in the rest of the system.
inductive Event where
  | Message (msg : AppMessage) (uiEndpoint fault : Option UInt32)
  | Ended (pid : ProcessId)
  | Elsewhere (supervisor : SupervisorState)

def World.step (world : World) : Event → World
  | .Message msg uiEndpoint fault =>
    let (machine, service, _) := Program.run (answer fault) { world.toMachine with sent := [] }
      (world.service.onMessage uiEndpoint msg)
    { toMachine := machine, service }
  | .Ended pid =>
    { world with
      supervisor := world.supervisor.killProcessDirect pid
      made := world.made.filter (·.1 ≠ pid)
      sent := [] }
  | .Elsewhere supervisor => { world with supervisor, sent := [] }

-- Nobody else takes away or replaces what the service has made.
def World.Lawful (world : World) : Event → Prop
  | .Elsewhere supervisor =>
    ∀ entry ∈ world.made, supervisor.system.kernel.capSpaces.capAt entry.1 entry.2 =
      world.kernel.capSpaces.capAt entry.1 entry.2
  | _ => True

-- The answers to a message, where they say that all went well.
def Affirms (sent : List (UInt32 × List UInt8)) (slot : UInt32) : Prop :=
  (MSG_CAPABILITY_RESPONSE, successResponse slot) ∈ sent

structure TrueAnswers (msg : AppMessage) (ledger : Ledger) (sent : List (UInt32 × List UInt8)) :
    Prop where
  request : msg.tag = MSG_REQUEST_CAPABILITY → ∀ slot, Affirms sent slot →
    ∃ request permissions, parseCapRequest msg.data = .ok request ∧
      ledger.Holds msg.fromPid request.objectType.toU8 slot permissions
  revocation : msg.tag = MSG_REVOKE_CAPABILITY → ∀ slot, Affirms sent slot →
    ∀ kind permissions, ¬ ledger.Holds msg.fromPid kind slot permissions

def World.Faithful (world : World) (event : Event) : Prop :=
  Mirrors (world.step event).service (world.step event).ledger ∧
    match event with
    | .Message msg _ _ => TrueAnswers msg (world.step event).ledger (world.step event).sent
    | _ => True

structure Grants (kernel : KernelCore) (now : UInt64) (fault : Option UInt32)
    (fromSlot pid : UInt32) (source : Capability) (cspace : CapabilitySpace) : Prop where
  faultless : fault = none
  registered : PERMISSION_SERVICE_PID ∈ kernel.processes
  valid : kernel.validateGrantSource PERMISSION_SERVICE_PID fromSlot now = .ok source
  space : kernel.capSpaces[pid.toUInt64]? = some cspace

-- It makes one of the type and with the permissions asked for, in a slot that is not taken for
-- an error and that the table does not name for the process.
structure GrantsExactly (kernel : KernelCore) (now : UInt64) (service : PermissionService)
    (fault : Option UInt32) (fromSlot pid : UInt32) (request : CapRequest) (source : Capability)
    (cspace : CapabilitySpace) : Prop extends
    Grants kernel now fault fromSlot pid source cspace where
  positive : cspace.nextSlot &&& 0x80000000 = 0
  objectType : source.objectType.toU8 = request.objectType.toU8
  permissions : (attenuatePermissions source.permissions
    (Permissions.fromByte request.permissions)).toByte = request.permissions
  free : ∀ kind m, ¬ service.Records pid kind cspace.nextSlot m

def RequestKept (kernel : KernelCore) (now : UInt64) (service : PermissionService)
    (fault : Option UInt32) (msg : AppMessage) : Prop :=
  ∀ request fromSlot, parseCapRequest msg.data = .ok request →
    service.getGrant msg.fromPid request.objectType = none →
    service.sourceSlot request.objectType = .ok fromSlot →
    ∃ source cspace,
      GrantsExactly kernel now service fault fromSlot msg.fromPid request source cspace

-- The table names no grant to the client in the slot.
def RevocationKept (service : PermissionService) (msg : AppMessage) : Prop :=
  4 ≤ msg.data.length → ∀ kind m, ¬ service.Records msg.fromPid kind (leWord32 msg.data) m

-- No process ends that the table names.
def World.Kept (world : World) : Event → Prop
  | .Message msg _ fault =>
    (msg.tag = MSG_REQUEST_CAPABILITY →
      RequestKept world.kernel world.time world.service fault msg) ∧
    (msg.tag = MSG_REVOKE_CAPABILITY → RevocationKept world.service msg)
  | .Ended pid => ∀ p kind s m, world.service.Records p kind s m → p.toUInt64 ≠ pid
  | .Elsewhere _ => True

section Calls

variable (machine : Machine) (fault : Option UInt32)

lemma syscall_of_gateway
    (hn : syscallNum ≠ SYS_DEBUG ∧ syscallNum ≠ SYS_EXIT ∧ syscallNum ≠ SYS_CONSOLE_WRITE)
    (hm : PERMISSION_SERVICE_PID ∈ state.system.kernel.processes) :
    syscall state syscallNum args data =
      let called := state.gatewayCall PERMISSION_SERVICE_PID syscallNum (gatewayArgs args) data
      (called.1, called.2.1.toInt32) := by
  unfold syscall processSyscallInternal
  simp only [hm, not_true_eq_false, ite_false, hn.1, hn.2.1, hn.2.2]

lemma syscall_of_unregistered (hm : PERMISSION_SERVICE_PID ∉ state.system.kernel.processes)
    (syscallNum : UInt32) (args : Vector UInt32 3) :
    syscall state syscallNum args data = (state, -1) := by
  unfold syscall processSyscallInternal
  simp only [hm, not_false_eq_true, ite_true]

section

variable (state : SupervisorState) (args : Vector UInt32 3) (channel : String)
  (fields : List (List Char)) (data : List UInt8)

lemma capSpaces_syscall_send :
    (syscall state SYS_SEND args data).1.system.kernel.capSpaces =
      state.system.kernel.capSpaces := by
  by_cases hm : PERMISSION_SERVICE_PID ∈ state.system.kernel.processes
  · rw [syscall_of_gateway (by decide) hm]
    rw [kernel_gatewayCall, SYS_SEND, rawSyscall_send]
    exact capSpaces_ipcSend
  · rw [syscall_of_unregistered hm]

lemma ofText_signal : ofText (signal channel fields) = .Console := by
  have hs : ∃ rest, signal channel fields = 'P' :: rest := ⟨_, rfl⟩
  obtain ⟨rest, hr⟩ := hs
  rw [hr]
  simp [ofText, all, header]

lemma capSpaces_syscall_debug :
    (syscall state SYS_DEBUG args
        (utf8Bytes (String.ofList (signal channel fields)))).1.system.kernel.capSpaces =
      state.system.kernel.capSpaces := by
  by_cases hm : PERMISSION_SERVICE_PID ∈ state.system.kernel.processes
  · unfold syscall processSyscallInternal handleSysDebug
    simp only [hm, not_true_eq_false, ite_false, ite_true, fromUtf8_utf8Bytes,
      dispatchDebugMessage, String.toList_ofList, ofText_signal, Except.map]
    rw [capSpaces_handleDebugConsoleOutput]
    rfl
  · rw [syscall_of_unregistered hm]

lemma answer_send (slot tag : UInt32) (data : List UInt8) :
    (answer fault machine (.Send slot tag data)).1.ledger = machine.ledger ∧
      (answer fault machine (.Send slot tag data)).1.sent = machine.sent ++ [(tag, data)] := by
  refine ⟨?_, rfl⟩
  simp only [answer, Machine.ledger, capSpaces_syscall_send]

lemma answer_signal :
    (answer fault machine (.Debug (signal channel fields))).1.ledger = machine.ledger ∧
      (answer fault machine (.Debug (signal channel fields))).1.sent = machine.sent := by
  refine ⟨?_, rfl⟩
  simp only [answer, Machine.ledger, capSpaces_syscall_debug]

end

lemma slotReply_slot :
    slotReply slot.toUInt64.toInt64.toInt32 =
      if slot &&& 0x80000000 = 0 then .ok slot else .error (slot &&& 0x7FFFFFFF) := by
  rw [slotReply, toUInt32_slot]

lemma syscall_capability (hn : syscallNum = SYS_CAP_GRANT ∨ syscallNum = SYS_CAP_REVOKE)
    (hm : PERMISSION_SERVICE_PID ∈ state.system.kernel.processes) (args : Vector UInt32 3) :
    let called := state.system.kernel.executeCapabilitySyscall syscallNum PERMISSION_SERVICE_PID
      (gatewayArgs args) (state.system.uptimeNanos state.hal)
    (syscall state syscallNum args []).1.system.kernel = called.kernel ∧
      (syscall state syscallNum args []).2 = called.result.toInt32 := by
  have hr : ∀ args : _, state.system.kernel.executeSyscallKernelFn state.hal syscallNum
      PERMISSION_SERVICE_PID args [] (state.system.uptimeNanos state.hal) =
        state.system.kernel.executeCapabilitySyscall syscallNum PERMISSION_SERVICE_PID args
          (state.system.uptimeNanos state.hal) := by
    obtain rfl | rfl := hn
    · simp [executeSyscallKernelFn, SYS_CAP_GRANT]
    · simp [executeSyscallKernelFn, SYS_CAP_REVOKE]
  have ho : syscallNum ≠ 0x35 ∧ syscallNum ≠ 0x50 ∧ syscallNum ≠ 0x41 := by
    obtain rfl | rfl := hn <;> decide
  have hg : syscallNum ≠ SYS_DEBUG ∧ syscallNum ≠ SYS_EXIT ∧ syscallNum ≠ SYS_CONSOLE_WRITE := by
    obtain rfl | rfl := hn <;> decide
  rw [syscall_of_gateway hg hm]
  dsimp only
  rw [kernel_gatewayCall, result_gatewayCall, rawSyscall_of_raw _ (hr _) ho, hr]
  exact ⟨rfl, rfl⟩

lemma syscall_grant (hm : PERMISSION_SERVICE_PID ∈ state.system.kernel.processes)
    (fromSlot pid : UInt32)
    (ho : state.system.kernel.grantCapability PERMISSION_SERVICE_PID fromSlot pid.toUInt64
      perms (state.system.uptimeNanos state.hal) = outcome) :
    (syscall state SYS_CAP_GRANT #v[fromSlot, pid, perms.toByte.toUInt32] []).1.system.kernel =
        outcome.kernel ∧
      (syscall state SYS_CAP_GRANT #v[fromSlot, pid, perms.toByte.toUInt32] []).2 =
        match outcome.result with
        | .ok slot => slot.toUInt64.toInt64.toInt32
        | .error _ => -1 := by
  have hp : fromByte perms.toByte.toUInt32.toUInt8 = perms := by
    rw [UInt8.toUInt8_toUInt32, fromByte_toByte]
  obtain ⟨hk, hr⟩ := syscall_capability (.inl rfl) hm #v[fromSlot, pid, perms.toByte.toUInt32]
  have hg : state.system.kernel.grantCapability PERMISSION_SERVICE_PID
      (gatewayArgs #v[fromSlot, pid, perms.toByte.toUInt32]).word0
      (gatewayArgs #v[fromSlot, pid, perms.toByte.toUInt32]).word1.toUInt64
      (fromByte (gatewayArgs #v[fromSlot, pid, perms.toByte.toUInt32]).word2.toUInt8)
      (state.system.uptimeNanos state.hal) = outcome := by
    rw [← ho]
    exact congrArg (state.system.kernel.grantCapability _ _ _ · _) hp
  rw [hk, hr]
  simp only [executeCapabilitySyscall, hg]
  cases outcome.result with
  | ok | error => exact ⟨rfl, rfl⟩

lemma syscall_revoke (hm : PERMISSION_SERVICE_PID ∈ state.system.kernel.processes)
    (pid : UInt32) (ho : state.system.kernel.deleteCapability pid.toUInt64 slot
      (state.system.uptimeNanos state.hal) = outcome) :
    (syscall state SYS_CAP_REVOKE #v[pid, slot, 0] []).1.system.kernel = outcome.kernel ∧
      (syscall state SYS_CAP_REVOKE #v[pid, slot, 0] []).2 =
        match outcome.result with
        | .ok () => 0
        | .error _ => -1 := by
  obtain ⟨hk, hr⟩ := syscall_capability (.inr rfl) hm #v[pid, slot, 0]
  have hd : state.system.kernel.deleteCapability (gatewayArgs #v[pid, slot, 0]).word0.toUInt64
      (gatewayArgs #v[pid, slot, 0]).word1
      (state.system.uptimeNanos state.hal) = outcome := ho
  rw [hk, hr]
  simp only [executeCapabilitySyscall, hd]
  cases outcome.result with
  | ok | error => exact ⟨rfl, rfl⟩

lemma answer_grant_cases (fromSlot pid : UInt32) (perms : Permissions) :
    let answered := answer fault machine (.CapGrant fromSlot pid perms)
    ((¬ ∃ source cs, Grants machine.kernel machine.time fault fromSlot pid source cs) ∧
      answered.1.ledger = machine.ledger ∧ answered.1.sent = machine.sent ∧
      ∃ code, answered.2 = .error code) ∨
    ∃ source cs, Grants machine.kernel machine.time fault fromSlot pid source cs ∧
      answered.1.ledger = machine.ledger.install pid.toUInt64 cs
        (source.derived machine.kernel.nextCapId (attenuatePermissions source.permissions perms)) ∧
      answered.1.sent = machine.sent ∧
      answered.2 = slotReply cs.nextSlot.toUInt64.toInt64.toInt32 := by
  cases fault with
  | some code =>
    refine .inl ⟨?_, rfl, rfl, code, rfl⟩
    rintro ⟨source, cs, hg⟩
    exact absurd hg.faultless (by simp)
  | none =>
    by_cases hm : PERMISSION_SERVICE_PID ∈ machine.kernel.processes
    swap
    · refine .inl ⟨?_, ?_, rfl, ?_⟩
      · rintro ⟨source, cs, hg⟩
        exact hm hg.registered
      · simp only [answer, Machine.grantedSlots, syscall_of_unregistered hm,
          hm, ite_false, List.nil_append]
      · simp only [answer, syscall_of_unregistered hm]
        exact ⟨_, rfl⟩
    obtain ⟨e, hf, he⟩ | ⟨source, hv, hc, he⟩ |
      ⟨source, cs, hv, hc, he⟩ := machine.kernel.grantCapability_cases
        PERMISSION_SERVICE_PID fromSlot pid.toUInt64 perms machine.time
    · obtain ⟨hk, hr⟩ := syscall_grant hm fromSlot pid he
      refine .inl ⟨?_, ?_, rfl, ?_⟩
      · rintro ⟨source, cs, hg⟩
        rw [hg.valid] at hf
        cases hf
      · simp only [answer, Machine.ledger, Machine.grantedSlots, hm, he, hk]
        rfl
      · simp only [answer, hr]
        exact ⟨_, rfl⟩
    · obtain ⟨hk, hr⟩ := syscall_grant hm fromSlot pid he
      refine .inl ⟨?_, ?_, rfl, ?_⟩
      · rintro ⟨_, cs, hg⟩
        rw [hg.space] at hc
        cases hc
      · simp only [answer, Machine.ledger, Machine.grantedSlots, hm, he, hk]
        rfl
      · simp only [answer, hr]
        exact ⟨_, rfl⟩
    · obtain ⟨hk, hr⟩ := syscall_grant hm fromSlot pid he
      refine .inr ⟨source, cs, ⟨rfl, hm, hv, hc⟩, ?_, rfl, ?_⟩
      · simp only [answer, Machine.ledger, Machine.grantedSlots, hm, he, hk]
        rfl
      · simp only [answer, hr]

lemma answer_revoke_cases (pid : UInt32) :
    ((answer fault machine (.CapRevokeFrom pid slot)).1.ledger = machine.ledger ∧
      ∃ code, (answer fault machine (.CapRevokeFrom pid slot)).2 = .error code) ∨
    ∃ cs, machine.kernel.capSpaces[pid.toUInt64]? = some cs ∧
      (answer fault machine (.CapRevokeFrom pid slot)).1.ledger =
        machine.ledger.remove pid.toUInt64 cs slot ∧
      (answer fault machine (.CapRevokeFrom pid slot)).2 = .ok 0 := by
  cases fault with
  | some code => exact .inl ⟨rfl, code, rfl⟩
  | none =>
    by_cases hm : PERMISSION_SERVICE_PID ∈ machine.kernel.processes
    swap
    · refine .inl ⟨?_, ?_⟩
      · simp only [answer, syscall_of_unregistered hm]
        rfl
      · simp only [answer, syscall_of_unregistered hm]
        exact ⟨_, rfl⟩
    obtain ⟨e, -, he⟩ | ⟨_, cs, hc, -, he⟩ :=
      machine.kernel.deleteCapability_cases pid.toUInt64 slot machine.time
    · obtain ⟨hk, hr⟩ := syscall_revoke hm pid he
      refine .inl ⟨?_, ?_⟩
      · simp only [answer, Machine.ledger, hk, hr]
        rfl
      · simp only [answer, hr]
        exact ⟨_, rfl⟩
    · obtain ⟨hk, hr⟩ := syscall_revoke hm pid he
      refine .inr ⟨cs, hc, ?_, ?_⟩
      · simp only [answer, Machine.ledger, hk, hr]
        rfl
      · simp only [answer, hr]
        rfl

end Calls

end Permission

end ZeroOS
