import ZeroOS.Init.Delivery
import ZeroOS.Kernel.Ipc.Lemmas

/-!
The way of a storage result from the supervisor by Init to the file system service.
-/

namespace ZeroOS

open Supervisor List

namespace KernelCore

def CanSend (kernel : KernelCore) (pid : ProcessId) (slot : CapSlot) (now : UInt64) : Prop :=
  ∃ eid endpoint, kernel.validateSendCap pid slot now = .ok eid ∧
    kernel.endpoints[eid]? = some endpoint

variable (kernel : KernelCore)

lemma ipcSend_of_canSend (hc : kernel.CanSend pid slot now) (tag : UInt32) (data : List UInt8) :
    (kernel.ipcSend pid slot tag data now).2.1 = .ok () := by
  obtain ⟨eid, _, hv, hg⟩ := hc
  rcases kernel.ipcSend_cases pid slot tag data now with
    ⟨e, hn, -⟩ | ⟨_, _, _, -, -, he, -⟩
  · rw [hn eid hv] at hg
    cases hg
  · rw [he]

lemma ipcSend_of_not_canSend (hc : ¬ kernel.CanSend pid slot now) (tag : UInt32)
    (data : List UInt8) : ∃ e, kernel.ipcSend pid slot tag data now = (kernel, .error e, none) := by
  rcases kernel.ipcSend_cases pid slot tag data now with
    ⟨e, -, he⟩ | ⟨eid, ep, _, hv, hg, -, -⟩
  · exact ⟨e, he⟩
  · exact absurd ⟨eid, ep, hv, hg⟩ hc

end KernelCore

lemma System.processSyscall_send (system : System) (hal : Hal) (pid : ProcessId)
    (args : SyscallArgs) (data : List UInt8) :
    (system.processSyscall hal pid 0x40 args data).2.1 = 0 ↔
      system.kernel.CanSend pid args.word0 (system.uptimeNanos hal) := by
  have hr : (system.processSyscall hal pid 0x40 args data).2.1 =
      (system.kernel.executeIpcSyscall 0x40 pid args data (system.uptimeNanos hal)).result := rfl
  rw [hr, KernelCore.executeIpcSyscall]
  by_cases hc : system.kernel.CanSend pid args.word0 (system.uptimeNanos hal)
  · have hs := system.kernel.ipcSend_of_canSend hc args.word1 data
    generalize system.kernel.ipcSend pid args.word0 args.word1 data (system.uptimeNanos hal) = sent
      at hs ⊢
    obtain ⟨_, result, _⟩ := sent
    obtain rfl : result = .ok () := hs
    simp [hc]
  · obtain ⟨e, hs⟩ := system.kernel.ipcSend_of_not_canSend hc args.word1 data
    rw [hs]
    simp [hc]

-- The parties on the way, each in the state in which the message reaches it.
structure Route where
  supervisor : Supervisor
  init : Init
  -- The capability that Init is given later, for the case that it has none.
  granted : Option UInt32
  -- The kernel and the platform when Init sends.
  system : System
  hal : Hal

structure Arrival where
  failures : List DeliveryFailure
  arrived : Option StorageResult

def Arrival.Lossless (arrival : Arrival) (result : StorageResult) : Prop :=
  match arrival.arrived with
  | some other => other = result
  | none => arrival.failures ≠ []

namespace Route

def handled (failures : List DeliveryFailure) (msg : ReceivedMessage) : Arrival :=
  match parseStorageResult msg.data with
  | none => ⟨failures ++ [.ResultTooShort], none⟩
  | some result => ⟨failures, some result⟩

def send (route : Route) (failures : List DeliveryFailure) (capSlot : UInt32)
    (delivery : PendingDelivery) : Arrival :=
  let initPid : ProcessId := 1
  let message := sentBy initPid delivery.tag delivery.data
  let (_, result, _, _) := route.system.processSyscall route.hal initPid 0x40
    #v[capSlot, delivery.tag, UInt32.ofNat delivery.data.length, 0] message.data
  if result = 0 then
    match received message with
    | .error e => ⟨failures ++ [.NotReceived e], none⟩
    | .ok msg => handled failures msg
  else ⟨failures ++ [.SendFailed delivery.targetPid delivery.endpointSlot result], none⟩

def forward (route : Route) (msg : ReceivedMessage) : Arrival :=
  match route.init.handleSupervisorIpcDelivery msg with
  | (_, .Refused failure) => ⟨[failure], none⟩
  | (_, .Send capSlot delivery) => route.send [] capSlot delivery
  | (init, .Queued delivery) =>
    let failures := [.NoCapability delivery.targetPid delivery.endpointSlot delivery.tag]
    match route.granted with
    | none => ⟨failures, none⟩
    | some capSlot =>
      match (init.retryPendingDeliveries delivery.targetPid capSlot).2.getLast? with
      | none => ⟨failures, none⟩
      | some (capSlot, delivery) => route.send failures capSlot delivery

-- The whole way of the bytes that a read returned.
def transport (route : Route) (requestId : UInt32) (data : List UInt8) : Arrival :=
  match route.supervisor.notifyStorageReadComplete requestId data with
  | (_, .error failure) => ⟨[failure], none⟩
  | (_, .ok message) =>
    match received message with
    | .error e => ⟨[.NotReceived e], none⟩
    | .ok msg => route.forward msg

-- The request is known and every hop of the way has the capability it needs.
def Connected (route : Route) (requestId : UInt32) : Prop :=
  ∃ pid initSlot capSlot,
    route.supervisor.pendingStorageRequests[requestId]? = some pid ∧
    route.supervisor.initEndpointSlot = some initSlot ∧
    route.supervisor.system.kernel.CanSend 0 initSlot
      (route.supervisor.system.uptimeNanos route.supervisor.hal) ∧
    route.init.serviceCapSlots[pid.toUInt32]?.or route.granted = some capSlot ∧
    route.system.kernel.CanSend 1 capSlot (route.system.uptimeNanos route.hal)

-- Nothing arrives, and that is logged.
def Fails (arrival : Arrival) : Prop := arrival.arrived = none ∧ arrival.failures ≠ []

lemma Fails.lossless (hf : Fails arrival) : arrival.Lossless result := by
  rw [Arrival.Lossless, hf.1]
  exact hf.2

lemma fails_append (failures : List DeliveryFailure) {failure : DeliveryFailure} :
    Fails ⟨failures ++ [failure], none⟩ :=
  ⟨rfl, by simp⟩

-- The way to Init is open.
def Routed (route : Route) (requestId : UInt32) (pid : UInt64) (initSlot : CapSlot) : Prop :=
  route.supervisor.pendingStorageRequests[requestId]? = some pid ∧
    route.supervisor.initEndpointSlot = some initSlot ∧
    route.supervisor.system.kernel.CanSend 0 initSlot
      (route.supervisor.system.uptimeNanos route.supervisor.hal)

-- As much of a payload as its length says.
def cut (requestId : UInt32) (data : List UInt8) : List UInt8 :=
  (StorageResult.payload ⟨requestId, StorageResult.READ_OK, data⟩).take ((9 + data.length) % 65536)

section Hops

variable {route : Route}

lemma send_of_canSend
    (hc : route.system.kernel.CanSend 1 capSlot (route.system.uptimeNanos route.hal))
    (hs : delivery.data.length ≤ 16347) :
    route.send failures capSlot delivery =
      handled failures ⟨1, delivery.tag, [], delivery.data⟩ := by
  have hd : (sentBy 1 delivery.tag delivery.data).data = delivery.data := by
    rw [sentBy, readSyscallData_zosSendBytes, take_of_length_le]
    exact Nat.le_trans hs (by decide)
  have hr : received (sentBy 1 delivery.tag delivery.data) =
      .ok ⟨1, delivery.tag, [], delivery.data⟩ := by
    rw [received_eq rfl, hd, take_of_length_le hs]
    rfl
  have hrs := (route.system.processSyscall_send route.hal 1 #v[capSlot, delivery.tag, UInt32.ofNat
    delivery.data.length, 0] (sentBy 1 delivery.tag delivery.data).data).mpr hc
  simp only [send, hrs, if_true, hr]

lemma send_of_not_canSend
    (hc : ¬ route.system.kernel.CanSend 1 capSlot (route.system.uptimeNanos route.hal)) :
    Fails (route.send failures capSlot delivery) := by
  have hr := mt (route.system.processSyscall_send route.hal 1 #v[capSlot, delivery.tag,
    UInt32.ofNat delivery.data.length, 0] (sentBy 1 delivery.tag delivery.data).data).mp hc
  simp only [send, if_neg hr]
  exact fails_append _

lemma forward_eq :
    route.forward ⟨0, tag, [],
        (deliveryPayload pid SERVICE_INPUT_SLOT MSG_STORAGE_RESULT data).take 16347⟩ =
      if min 16347 (14 + data.length) < 14 + data.length % 65536 then ⟨[.Truncated], none⟩
      else
        let delivery : PendingDelivery := ⟨pid.toUInt32, SERVICE_INPUT_SLOT, MSG_STORAGE_RESULT,
          data.take (data.length % 65536)⟩
        let failures := [.NoCapability pid.toUInt32 SERVICE_INPUT_SLOT MSG_STORAGE_RESULT]
        match route.init.serviceCapSlots[pid.toUInt32]?, route.granted with
        | some capSlot, _ => route.send [] capSlot delivery
        | none, some capSlot => route.send failures capSlot delivery
        | none, none => ⟨failures, none⟩ := by
  have hp := parseDelivery_take pid SERVICE_INPUT_SLOT MSG_STORAGE_RESULT data
    (show 14 ≤ 16347 by decide)
  by_cases hc : min 16347 (14 + data.length) < 14 + data.length % 65536
  · rw [if_pos hc] at hp ⊢
    simp only [forward, Init.handleSupervisorIpcDelivery, hp, ne_eq, not_true_eq_false, if_false]
  · rw [if_neg hc] at hp ⊢
    have hs : (SERVICE_INPUT_SLOT = VFS_RESPONSE_SLOT) = False := by decide
    simp only [forward, Init.handleSupervisorIpcDelivery, hp, Init.capSlotFor, hs]
    cases ha : route.init.serviceCapSlots[pid.toUInt32]? with
    | some => rfl
    | none =>
      cases hg : route.granted with
      | none => rfl
      | some => simp [Init.retryPendingDeliveries]

lemma transport_of_routed (hr : route.Routed requestId pid initSlot) :
    route.transport requestId data =
      route.forward ⟨0, MSG_SUPERVISOR_IPC_DELIVERY, [],
        (deliveryPayload pid SERVICE_INPUT_SLOT MSG_STORAGE_RESULT
          (StorageResult.payload ⟨requestId, StorageResult.READ_OK, data⟩)).take 16347⟩ := by
  obtain ⟨hp, hi, hc⟩ := hr
  have hs : ∀ payload, ∃ system, route.supervisor.system.ipcSend route.supervisor.hal 0 initSlot
      MSG_SUPERVISOR_IPC_DELIVERY payload = (system, .ok ()) := by
    intro payload
    refine ⟨_, Prod.ext rfl ?_⟩
    exact route.supervisor.system.kernel.ipcSend_of_canSend hc _ _
  obtain ⟨system, hn⟩ := hs (deliveryPayload pid SERVICE_INPUT_SLOT MSG_STORAGE_RESULT
    (StorageResult.payload ⟨requestId, StorageResult.READ_OK, data⟩))
  simp only [transport, notifyStorageReadComplete, notifyStorage, hp,
    deliverStorageResult, routeIpcViaInit, hi, hn]
  rw [received_eq rfl]
  rfl

lemma transport_of_not_routed (hn : ¬ ∃ pid initSlot, route.Routed requestId pid initSlot) :
    Fails (route.transport requestId data) := by
  cases hp : route.supervisor.pendingStorageRequests[requestId]? with
  | none =>
    simp only [transport, notifyStorageReadComplete, notifyStorage, hp]
    exact fails_append []
  | some pid =>
    cases hi : route.supervisor.initEndpointSlot with
    | none =>
      simp only [transport, notifyStorageReadComplete, notifyStorage, hp, hi]
      exact fails_append []
    | some initSlot =>
      have hc : ¬ route.supervisor.system.kernel.CanSend 0 initSlot
          (route.supervisor.system.uptimeNanos route.supervisor.hal) :=
        fun hc => hn ⟨pid, initSlot, hp, hi, hc⟩
      have hsn : ∀ payload, ∃ system e, route.supervisor.system.ipcSend
          route.supervisor.hal 0 initSlot MSG_SUPERVISOR_IPC_DELIVERY payload =
            (system, .error e) := by
        intro payload
        obtain ⟨e, hs⟩ := route.supervisor.system.kernel.ipcSend_of_not_canSend hc
          MSG_SUPERVISOR_IPC_DELIVERY payload
        refine ⟨_, e, Prod.ext rfl ?_⟩
        exact congrArg (fun result => result.2.1) hs
      obtain ⟨system, e, hs⟩ := hsn (deliveryPayload pid SERVICE_INPUT_SLOT
        MSG_STORAGE_RESULT (StorageResult.payload ⟨requestId, StorageResult.READ_OK, data⟩))
      simp only [transport, notifyStorageReadComplete, notifyStorage,
        hp, deliverStorageResult, routeIpcViaInit, hi, hs]
      exact fails_append []

lemma transport_of_not_connected (hn : ¬ route.Connected requestId) (data : List UInt8) :
    Fails (route.transport requestId data) := by
  by_cases hr : ∃ pid initSlot, route.Routed requestId pid initSlot
  · obtain ⟨pid, initSlot, hr⟩ := hr
    have hl : ∀ capSlot, route.init.serviceCapSlots[pid.toUInt32]?.or route.granted =
        some capSlot → ¬ route.system.kernel.CanSend 1 capSlot
          (route.system.uptimeNanos route.hal) := by
      intro capSlot hs hc'
      exact hn ⟨pid, initSlot, capSlot, hr.1, hr.2.1, hr.2.2, hs, hc'⟩
    rw [transport_of_routed hr, forward_eq]
    split_ifs with hu
    · exact fails_append []
    cases hc : route.init.serviceCapSlots[pid.toUInt32]? with
    | some => exact send_of_not_canSend (hl _ (by rw [hc]; rfl))
    | none =>
      cases hg : route.granted with
      | none => exact fails_append []
      | some => exact send_of_not_canSend (hl _ (by rw [hc, hg]; rfl))
  · exact transport_of_not_routed hr

-- On a way that is connected the handler gets as much of the payload as its length says,
-- unless Init misses a part of that.
lemma transport_of_connected (ho : route.Connected requestId) (data : List UInt8) :
    (16333 < (9 + data.length) % 65536 ∧ 16324 < data.length ∧
      Fails (route.transport requestId data)) ∨
    (¬ (16333 < (9 + data.length) % 65536 ∧ 16324 < data.length) ∧
      ∃ failures, route.transport requestId data =
        handled failures ⟨1, MSG_STORAGE_RESULT, [], cut requestId data⟩) := by
  obtain ⟨pid, _, capSlot, hp, hi, hn, hs, ha⟩ := ho
  rw [transport_of_routed ⟨hp, hi, hn⟩, forward_eq, StorageResult.length_payload]
  have hu : min 16347 (14 + (9 + data.length)) < 14 + (9 + data.length) % 65536 ↔
      16333 < (9 + data.length) % 65536 ∧ 16324 < data.length := by omega
  by_cases hl : 16333 < (9 + data.length) % 65536 ∧ 16324 < data.length
  · rw [if_pos (hu.mpr hl)]
    exact Or.inl ⟨hl.1, hl.2, fails_append []⟩
  · rw [if_neg (fun h => hl (hu.mp h))]
    refine Or.inr ⟨hl, ?_⟩
    have hm : (cut requestId data).length ≤ 16347 := by
      rw [cut, length_take]
      omega
    cases hc : route.init.serviceCapSlots[pid.toUInt32]? with
    | some slot =>
      obtain rfl : slot = capSlot := by simpa [hc] using hs
      exact ⟨[], send_of_canSend ha hm⟩
    | none =>
      cases hg : route.granted with
      | none => simp [hc, hg] at hs
      | some slot =>
        obtain rfl : slot = capSlot := by simpa [hc, hg] using hs
        exact ⟨_, send_of_canSend ha hm⟩

end Hops

-- The lengths that are mistaken for short ones: 64 KiB or more, and little more than a
-- multiple of 64 KiB.
def Wraps (length : Nat) : Prop := 65536 ≤ length ∧ length % 65536 ≤ 16324

lemma handled_of_wraps (hw : Wraps data.length) (requestId : UInt32)
    (failures : List DeliveryFailure) :
    ∃ other, other ≠ data ∧
      handled failures ⟨1, MSG_STORAGE_RESULT, [], cut requestId data⟩ =
        ⟨failures, some ⟨requestId, StorageResult.READ_OK, other⟩⟩ := by
  obtain ⟨hl, hs⟩ := hw
  have hh : 9 ≤ (9 + data.length) % 65536 := by omega
  obtain ⟨other, hsh, hp⟩ :=
    StorageResult.exists_parse_take ⟨requestId, StorageResult.READ_OK, data⟩ hh
  refine ⟨other, ?_, by simp only [handled, cut, hp]⟩
  rintro rfl
  omega

lemma handled_lossless (hw : ¬ Wraps data.length)
    (hps : ¬ (16333 < (9 + data.length) % 65536 ∧ 16324 < data.length)) :
    (handled failures ⟨1, MSG_STORAGE_RESULT, [], cut requestId data⟩).Lossless
      ⟨requestId, StorageResult.READ_OK, data⟩ := by
  have hl := StorageResult.length_payload ⟨requestId, StorageResult.READ_OK, data⟩
  dsimp only at hl
  rw [Wraps] at hw
  by_cases hm : data.length ≤ 16324
  · have hh : cut requestId data =
        StorageResult.payload ⟨requestId, StorageResult.READ_OK, data⟩ := by
      rw [cut, take_of_length_le]
      omega
    have hp := StorageResult.parse_payload ⟨requestId, StorageResult.READ_OK, data⟩
      (show data.length < 4294967296 by omega)
    rw [hh, handled]
    simp only [hp]
    rfl
  · have hs : (cut requestId data).length < 9 := by
      rw [cut, length_take]
      omega
    rw [handled]
    simp only [parseStorageResult, if_pos hs]
    exact (fails_append _).lossless

theorem storage_read_lossless_iff (route : Route) (requestId : UInt32) (data : List UInt8) :
    (route.transport requestId data).Lossless ⟨requestId, StorageResult.READ_OK, data⟩ ↔
      ¬ (route.Connected requestId ∧ Wraps data.length) := by
  by_cases hc : route.Connected requestId
  · rcases transport_of_connected hc data with
      ⟨hu, -, hf⟩ | ⟨hp, failures, ha⟩
    · have hw : ¬ Wraps data.length := by
        rw [Wraps]
        omega
      exact ⟨fun _ h => hw h.2, fun _ => hf.lossless⟩
    · rw [ha]
      constructor
      · rintro hl ⟨-, hw⟩
        obtain ⟨_, hn, hh⟩ := handled_of_wraps hw requestId failures
        rw [hh] at hl
        exact hn (congrArg StorageResult.data hl)
      · intro ho
        exact handled_lossless (fun hw => ho ⟨hc, hw⟩) hp
  · have hf := transport_of_not_connected hc data
    exact ⟨fun _ h => hc h.1, fun _ => hf.lossless⟩

-- The supervisor, Init and the file system service with an endpoint each for the last two, and
-- the capabilities that the way needs.
def booted : System :=
  let hal := Hal.unsupported 0
  let system := ((System.new hal).registerProcessWithPid hal 0 "supervisor").1
  let system := (system.registerProcessWithPid hal 1 "init").1
  let system := (system.registerProcessWithPid hal 2 "vfs").1
  let system := (system.createEndpoint hal 1).1
  let system := (system.createEndpoint hal 2).1
  let system := (system.grantCapabilityToEndpoint hal 1 1 0 Permissions.full).1
  (system.grantCapabilityToEndpoint hal 2 2 1 Permissions.full).1

def bootedRoute : Route where
  supervisor := ⟨booted, Hal.unsupported 0, some 0, (∅ : BTreeMap UInt32 UInt64).insert 7 2⟩
  init := ⟨(∅ : BTreeMap UInt32 UInt32).insert 2 1, ∅, ∅⟩
  granted := none
  system := booted
  hal := Hal.unsupported 0

lemma connected_bootedRoute : bootedRoute.Connected 7 := by
  have hf : booted.kernel.validateSendCap 0 0 0 = .ok 1 ∧ 1 ∈ booted.kernel.endpoints := by
    decide +kernel
  have hs : booted.kernel.validateSendCap 1 1 0 = .ok 2 ∧ 2 ∈ booted.kernel.endpoints := by
    decide +kernel
  obtain ⟨initEndpoint, hi⟩ := (BTreeMap.mem_iff ..).mp hf.2
  obtain ⟨vfsEndpoint, hv⟩ := (BTreeMap.mem_iff ..).mp hs.2
  refine ⟨2, 0, 1, by decide +kernel, rfl, ⟨1, initEndpoint, hf.1, hi⟩, by decide +kernel,
    ⟨2, vfsEndpoint, hs.1, hv⟩⟩

theorem large_read_arrives_empty : ∃ failures,
    bootedRoute.transport 7 (List.replicate 65536 1) =
      ⟨failures, some ⟨7, StorageResult.READ_OK, []⟩⟩ := by
  have hl : (replicate 65536 (1 : UInt8)).length = 65536 := length_replicate
  generalize replicate 65536 (1 : UInt8) = data at hl ⊢
  rcases transport_of_connected connected_bootedRoute data with
    ⟨hc, -, -⟩ | ⟨-, failures, ha⟩
  · omega
  · refine ⟨failures, ?_⟩
    have hr : (9 + data.length) % 65536 = 9 := by omega
    obtain ⟨other, hs, hp⟩ :=
      StorageResult.exists_parse_take ⟨7, StorageResult.READ_OK, data⟩ (Nat.le_refl 9)
    obtain rfl : other = [] := eq_nil_of_length_eq_zero (by omega)
    rw [ha, cut, hr]
    simp only [handled, hp]

end Route

end ZeroOS
