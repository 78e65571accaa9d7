import ZeroOS.Init.Delivery
import ZeroOS.Lib.Run
import ZeroOS.Supervisor.Debug

/-!
The messages by which the supervisor has Init deliver, and tells it of the capabilities to deliver
with.
-/

namespace ZeroOS

open Init BTreeMap

def MSG_VFS_RESPONSE_CAP_GRANTED : UInt32 := 0x1007

namespace Init

-- A message that is sent on, with the slot of the capability it is sent through.
abbrev Sent : Type := UInt32 × PendingDelivery

section

variable (init : Init) (servicePid capSlot : UInt32)

-- The body that the three notices of a capability share.
def handleNotice (msg : ReceivedMessage) (note : UInt32 → UInt32 → Init × List Sent) :
    Init × List Sent :=
  if msg.fromPid ≠ 0 then (init, [])
  else if msg.data.length < 8 then (init, [])
  else note (leWord32 msg.data) (leWord32 (msg.data.drop 4))

def preregister : Init × List Sent :=
  ({ init with serviceCapSlots := init.serviceCapSlots.insert servicePid capSlot }, [])

def granted : Init × List Sent :=
  { init with
    serviceCapSlots := init.serviceCapSlots.insert servicePid capSlot }.retryPendingDeliveries
      servicePid capSlot

def vfsGranted : Init × List Sent :=
  ({ init with serviceVfsSlots := init.serviceVfsSlots.insert servicePid capSlot }, [])

end

section

variable (init : Init) (msg : ReceivedMessage)

def handleServiceCapPreregister : Init × List Sent :=
  init.handleNotice msg init.preregister

def handleServiceCapGranted : Init × List Sent :=
  init.handleNotice msg init.granted

def handleVfsResponseCapGranted : Init × List Sent :=
  init.handleNotice msg init.vfsGranted

-- Whether a send succeeds makes no difference to Init.
def handleDelivery : Init × List Sent :=
  match init.handleSupervisorIpcDelivery msg with
  | (init, .Send capSlot delivery) => (init, [(capSlot, delivery)])
  | (init, .Refused _) => (init, [])
  | (init, .Queued _) => (init, [])

def handleMessage : Init × List Sent :=
  if msg.tag = MSG_SUPERVISOR_IPC_DELIVERY then init.handleDelivery msg
  else if msg.tag = MSG_SERVICE_CAP_GRANTED then init.handleServiceCapGranted msg
  else if msg.tag = MSG_SERVICE_CAP_PREREGISTER then init.handleServiceCapPreregister msg
  else if msg.tag = MSG_VFS_RESPONSE_CAP_GRANTED then init.handleVfsResponseCapGranted msg
  else (init, [])

-- What a message from the supervisor says.
inductive Notice where
  | Deliver (delivery : PendingDelivery)
  | Preregister (servicePid capSlot : UInt32)
  | Granted (servicePid capSlot : UInt32)
  | VfsGranted (servicePid capSlot : UInt32)
  | Nothing
deriving DecidableEq

def Notice.ofCapability (data : List UInt8) (notice : UInt32 → UInt32 → Notice) : Notice :=
  if data.length < 8 then .Nothing else notice (leWord32 data) (leWord32 (data.drop 4))

def Notice.ofMessage : Notice :=
  if msg.tag = MSG_SUPERVISOR_IPC_DELIVERY then
    match parseDelivery msg.data with
    | .ok delivery => .Deliver delivery
    | .error _ => .Nothing
  else if msg.tag = MSG_SERVICE_CAP_GRANTED then ofCapability msg.data .Granted
  else if msg.tag = MSG_SERVICE_CAP_PREREGISTER then ofCapability msg.data .Preregister
  else if msg.tag = MSG_VFS_RESPONSE_CAP_GRANTED then ofCapability msg.data .VfsGranted
  else .Nothing

def waiting (pid : UInt32) : List PendingDelivery :=
  init.pendingDeliveries[pid]?.getD []

def queued (delivery : PendingDelivery) : Init :=
  { init with
    pendingDeliveries := init.pendingDeliveries.insert delivery.targetPid
      (init.waiting delivery.targetPid ++ [delivery]) }

def deliver (delivery : PendingDelivery) : Init × List Sent :=
  match init.capSlotFor delivery with
  | some capSlot => (init, [(capSlot, delivery)])
  | none => (init.queued delivery, [])

def take : Notice → Init × List Sent
  | .Deliver delivery => init.deliver delivery
  | .Preregister servicePid capSlot => init.preregister servicePid capSlot
  | .Granted servicePid capSlot => init.granted servicePid capSlot
  | .VfsGranted servicePid capSlot => init.vfsGranted servicePid capSlot
  | .Nothing => (init, [])

end

lemma handleNotice_eq (init : Init) (hs : msg.fromPid = 0)
    (hn : ∀ servicePid capSlot, note servicePid capSlot = init.take (notice servicePid capSlot)) :
    init.handleNotice msg note = init.take (.ofCapability msg.data notice) := by
  rw [handleNotice, if_neg (not_not_intro hs), Notice.ofCapability]
  split_ifs
  · rfl
  · exact hn _ _

lemma handleMessage_eq (init : Init) (hs : msg.fromPid = 0) :
    init.handleMessage msg = init.take (.ofMessage msg) := by
  unfold handleMessage Notice.ofMessage
  split_ifs
  · rw [handleDelivery, handleSupervisorIpcDelivery, if_neg (not_not_intro hs)]
    cases parseDelivery msg.data with
    | error => rfl
    | ok delivery =>
      dsimp only [take, deliver]
      cases init.capSlotFor delivery <;> rfl
  · exact init.handleNotice_eq hs fun _ _ => rfl
  · exact init.handleNotice_eq hs fun _ _ => rfl
  · exact init.handleNotice_eq hs fun _ _ => rfl
  · rfl

end Init

structure Mail where
  init : Init
  requested : List PendingDelivery
  sent : List Init.Sent

namespace Mail

open Init (Notice)

def start (init : Init) : Mail := ⟨init, [], []⟩

def requestOf : Notice → List PendingDelivery
  | .Deliver delivery => [delivery]
  | .Preregister _ _ | .Granted _ _ | .VfsGranted _ _ | .Nothing => []

section

variable (cap : UInt32 → UInt32 → Option UInt32) (mail : Mail) (msg : ReceivedMessage)

def step : Mail :=
  ⟨(mail.init.handleMessage msg).1, mail.requested ++ requestOf (.ofMessage msg),
    mail.sent ++ (mail.init.handleMessage msg).2⟩

def content (delivery : PendingDelivery) : UInt32 × List UInt8 := (delivery.tag, delivery.data)

-- What was sent through a capability, if there is one.
def sentOn (capSlot : Option UInt32) : List (UInt32 × List UInt8) :=
  (mail.sent.filter fun sent => capSlot = some sent.1).map fun sent => content sent.2

def pendingFor (pid slot : UInt32) : List (UInt32 × List UInt8) :=
  ((mail.init.waiting pid).filter (·.endpointSlot = slot)).map content

def requestedFor (pid slot : UInt32) : List (UInt32 × List UInt8) :=
  (mail.requested.filter fun delivery =>
    delivery.targetPid = pid ∧ delivery.endpointSlot = slot).map content

-- Init is told of the capabilities to the input endpoint and to the endpoint for responses of
-- the file system, and of no others.
def Knows (pid slot : UInt32) : Prop :=
  (slot = SERVICE_INPUT_SLOT ∧ pid ∈ mail.init.serviceCapSlots) ∨
    (slot = VFS_RESPONSE_SLOT ∧ pid ∈ mail.init.serviceVfsSlots)

-- What was sent to an endpoint is what was to be sent there, in order, up to what waits for the
-- capability.
def InOrder : Prop :=
  ∀ pid slot, mail.sentOn (cap pid slot) ++ mail.pendingFor pid slot = mail.requestedFor pid slot ∧
    (mail.Knows pid slot → mail.pendingFor pid slot = [])

-- No two endpoints share a capability.
def Distinct : Prop :=
  ∀ (pid slot otherPid otherSlot capSlot : UInt32), cap pid slot = some capSlot →
    cap otherPid otherSlot = some capSlot → pid = otherPid ∧ slot = otherSlot

-- Each endpoint has one capability, of which the supervisor's notices tell.
def Tells : Notice → Prop
  | .Preregister servicePid capSlot => cap servicePid SERVICE_INPUT_SLOT = some capSlot
  | .Granted servicePid capSlot => cap servicePid SERVICE_INPUT_SLOT = some capSlot
  | .VfsGranted servicePid capSlot => cap servicePid VFS_RESPONSE_SLOT = some capSlot
  | .Deliver _ => True
  | .Nothing => True

def Lawful : Prop :=
  msg.fromPid = 0 ∧ Tells cap (.ofMessage msg)

-- The notices that do not cross: a capability of an endpoint comes when nothing waits for that
-- endpoint, or, for the notice after which Init tries again, when nothing else does.
def Uncrossed : Notice → Prop
  | .Deliver delivery => delivery.endpointSlot = SERVICE_INPUT_SLOT ∨
      delivery.endpointSlot = VFS_RESPONSE_SLOT ∨ delivery.targetPid ∉ mail.init.serviceCapSlots
  | .Preregister servicePid _ => mail.pendingFor servicePid SERVICE_INPUT_SLOT = []
  | .Granted servicePid _ => ∀ delivery ∈ mail.init.waiting servicePid,
      delivery.endpointSlot = SERVICE_INPUT_SLOT
  | .VfsGranted servicePid _ => mail.pendingFor servicePid VFS_RESPONSE_SLOT = []
  | .Nothing => True

def takes (notice : Notice) : Mail :=
  ⟨(mail.init.take notice).1, mail.requested ++ requestOf notice,
    mail.sent ++ (mail.init.take notice).2⟩

end

lemma step_eq (mail : Mail) (hs : msg.fromPid = 0) :
    mail.step msg = mail.takes (.ofMessage msg) := by
  rw [step, mail.init.handleMessage_eq hs, takes]

-- The capabilities that Init knows are those of the endpoints.
structure Told (cap : UInt32 → UInt32 → Option UInt32) (init : Init) : Prop where
  input : ∀ pid capSlot : UInt32, init.serviceCapSlots[pid]? = some capSlot →
    cap pid SERVICE_INPUT_SLOT = some capSlot
  vfs : ∀ pid capSlot : UInt32, init.serviceVfsSlots[pid]? = some capSlot →
    cap pid VFS_RESPONSE_SLOT = some capSlot

section

variable {cap : UInt32 → UInt32 → Option UInt32} {mail : Mail}

lemma told_insert {slots : BTreeMap UInt32 UInt32}
    (ht : ∀ pid known : UInt32, slots[pid]? = some known → cap pid slot = some known)
    (hte : cap servicePid slot = some capSlot) (pid known : UInt32)
    (hk : (slots.insert servicePid capSlot)[pid]? = some known) : cap pid slot = some known := by
  rw [get_insert] at hk
  split_ifs at hk with he
  · cases hk
    exact he ▸ hte
  · exact ht pid _ hk

section

variable (init : Init) (servicePid capSlot pid : UInt32)

lemma granted_serviceCapSlots :
    (init.granted servicePid capSlot).1.serviceCapSlots =
      init.serviceCapSlots.insert servicePid capSlot := by
  unfold granted retryPendingDeliveries
  cases init.pendingDeliveries[servicePid]? <;> rfl

lemma granted_serviceVfsSlots :
    (init.granted servicePid capSlot).1.serviceVfsSlots = init.serviceVfsSlots := by
  unfold granted retryPendingDeliveries
  cases init.pendingDeliveries[servicePid]? <;> rfl

lemma granted_sent :
    (init.granted servicePid capSlot).2 =
      (init.waiting servicePid).map fun delivery => (capSlot, delivery) := by
  unfold granted retryPendingDeliveries waiting
  cases init.pendingDeliveries[servicePid]? <;> rfl

lemma granted_waiting :
    (init.granted servicePid capSlot).1.waiting pid =
      if servicePid = pid then [] else init.waiting pid := by
  unfold granted retryPendingDeliveries waiting
  cases hw : init.pendingDeliveries[servicePid]? with
  | none =>
    split_ifs with he
    · rw [← he]
      simp [hw]
    · rfl
  | some =>
    simp only [get_erase]
    split_ifs <;> rfl

lemma queued_waiting :
    (init.queued delivery).waiting pid =
      if delivery.targetPid = pid then init.waiting pid ++ [delivery] else init.waiting pid := by
  unfold waiting queued
  simp only [get_insert]
  split_ifs with he
  · rw [← he]
    rfl
  · rfl

lemma deliver_slots (delivery : PendingDelivery) :
    (init.deliver delivery).1.serviceCapSlots = init.serviceCapSlots ∧
      (init.deliver delivery).1.serviceVfsSlots = init.serviceVfsSlots := by
  unfold deliver
  cases init.capSlotFor delivery <;> exact ⟨rfl, rfl⟩

end

lemma Told.takes (ht : Told cap mail.init) (he : Tells cap notice) :
    Told cap (mail.takes notice).init := by
  cases notice with
  | Deliver delivery =>
    obtain ⟨hc, hv⟩ := deliver_slots mail.init delivery
    refine ⟨fun pid capSlot hk => ht.input pid _ ?_, fun pid capSlot hk => ht.vfs pid _ ?_⟩
    · rw [← hc]
      exact hk
    · rw [← hv]
      exact hk
  | Preregister => exact ⟨told_insert ht.input he, ht.vfs⟩
  | Granted servicePid capSlot =>
    refine ⟨fun pid known hk => told_insert ht.input he pid _ ?_,
      fun pid known hk => ht.vfs pid _ ?_⟩
    · rw [← granted_serviceCapSlots]
      exact hk
    · rw [← granted_serviceVfsSlots mail.init servicePid capSlot]
      exact hk
  | VfsGranted => exact ⟨ht.input, told_insert ht.vfs he⟩
  | Nothing => exact ht

-- Where a delivery goes, and where it was to go.

lemma Distinct.eq_some_iff (hc : Distinct cap) (ho : cap pid slot = some capSlot) :
    cap otherPid otherSlot = some capSlot ↔ pid = otherPid ∧ slot = otherSlot := by
  constructor
  · exact hc pid _ _ _ _ ho
  · rintro ⟨rfl, rfl⟩
    exact ho

lemma capSlotFor_eq (ht : Told cap mail.init) (hs : mail.init.capSlotFor delivery = some capSlot) :
    (delivery.endpointSlot = VFS_RESPONSE_SLOT ∧ mail.Knows delivery.targetPid VFS_RESPONSE_SLOT ∧
        cap delivery.targetPid VFS_RESPONSE_SLOT = some capSlot) ∨
      (delivery.endpointSlot ≠ VFS_RESPONSE_SLOT ∧ delivery.targetPid ∈ mail.init.serviceCapSlots ∧
        cap delivery.targetPid SERVICE_INPUT_SLOT = some capSlot) := by
  unfold capSlotFor at hs
  split_ifs at hs with hv
  · exact .inl ⟨hv, .inr ⟨rfl, (mem_iff _).mpr ⟨_, hs⟩⟩, ht.vfs _ _ hs⟩
  · exact .inr ⟨hv, (mem_iff _).mpr ⟨_, hs⟩, ht.input _ _ hs⟩

lemma requestedFor_deliver :
    (mail.takes (.Deliver delivery)).requestedFor pid slot = mail.requestedFor pid slot ++
      if delivery.targetPid = pid ∧ delivery.endpointSlot = slot then [content delivery] else [] := by
  simp only [requestedFor, takes, requestOf]
  split_ifs with ht
  · simp [ht]
  · simp [ht]

lemma takes_sent (hs : mail.init.capSlotFor delivery = some capSlot) :
    mail.takes (.Deliver delivery) =
      ⟨mail.init, mail.requested ++ [delivery], mail.sent ++ [(capSlot, delivery)]⟩ := by
  simp only [takes, take, deliver, hs, requestOf]

lemma takes_queued (hs : mail.init.capSlotFor delivery = none) :
    mail.takes (.Deliver delivery) =
      ⟨mail.init.queued delivery, mail.requested ++ [delivery], mail.sent⟩ := by
  simp only [takes, take, deliver, hs, requestOf, List.append_nil]

lemma sentOn_deliver (hs : mail.init.capSlotFor delivery = some capSlot) :
    (mail.takes (.Deliver delivery)).sentOn other =
      mail.sentOn other ++ if other = some capSlot then [content delivery] else [] := by
  simp only [takes_sent hs, sentOn]
  split_ifs with ht
  · simp [ht]
  · simp [ht]

lemma pendingFor_queued (hs : mail.init.capSlotFor delivery = none) :
    (mail.takes (.Deliver delivery)).pendingFor pid slot = mail.pendingFor pid slot ++
      if delivery.targetPid = pid ∧ delivery.endpointSlot = slot then [content delivery] else [] := by
  simp only [takes_queued hs, pendingFor, queued_waiting]
  by_cases hp : delivery.targetPid = pid
  · by_cases he : delivery.endpointSlot = slot
    · simp [hp, he]
    · simp [hp, he]
  · simp [hp]

lemma not_knows_of_queued (hs : mail.init.capSlotFor delivery = none) :
    ¬ mail.Knows delivery.targetPid delivery.endpointSlot := by
  unfold capSlotFor at hs
  rintro (⟨he, hm⟩ | ⟨he, hm⟩)
  · rw [he] at hs
    exact not_mem_iff.mpr hs hm
  · rw [if_pos he] at hs
    exact not_mem_iff.mpr hs hm

lemma inOrder_queued (ho : InOrder cap mail) (hs : mail.init.capSlotFor delivery = none) :
    InOrder cap (mail.takes (.Deliver delivery)) := by
  intro pid slot
  have he : (mail.takes (.Deliver delivery)).sentOn (cap pid slot) =
      mail.sentOn (cap pid slot) := by
    rw [takes_queued hs]
    rfl
  rw [he, pendingFor_queued hs, requestedFor_deliver, ← List.append_assoc, (ho pid slot).1]
  refine ⟨rfl, fun hk => ?_⟩
  rw [takes_queued hs] at hk
  have hb : mail.Knows pid slot := hk
  rw [(ho pid slot).2 hb]
  refine if_neg ?_
  rintro ⟨rfl, rfl⟩
  exact not_knows_of_queued hs hb

lemma inOrder_sent (hc : Distinct cap) (ho : InOrder cap mail)
    (hs : mail.init.capSlotFor delivery = some capSlot)
    (hw : cap delivery.targetPid delivery.endpointSlot = some capSlot)
    (hk : mail.Knows delivery.targetPid delivery.endpointSlot) :
    InOrder cap (mail.takes (.Deliver delivery)) := by
  intro pid slot
  have hp : (mail.takes (.Deliver delivery)).pendingFor pid slot = mail.pendingFor pid slot := by
    rw [takes_sent hs]
    rfl
  rw [sentOn_deliver hs, hp, requestedFor_deliver, ← (ho pid slot).1]
  simp only [hc.eq_some_iff hw]
  constructor
  · by_cases ht : delivery.targetPid = pid ∧ delivery.endpointSlot = slot
    · obtain ⟨rfl, rfl⟩ := ht
      simp [(ho _ _).2 hk]
    · simp [ht]
  · intro ha
    rw [takes_sent hs] at ha
    exact (ho ..).2 ha

-- A delivery goes wrong when it is for an endpoint that Init has no capability for, and is sent
-- to the input endpoint.
lemma inOrder_deliver_iff (hc : Distinct cap) (ht : Told cap mail.init) (hr : InOrder cap mail) :
    InOrder cap (mail.takes (.Deliver delivery)) ↔ mail.Uncrossed (.Deliver delivery) := by
  cases hs : mail.init.capSlotFor delivery with
  | none =>
    refine iff_of_true (inOrder_queued hr hs) ?_
    by_cases hv : delivery.endpointSlot = VFS_RESPONSE_SLOT
    · exact .inr (.inl hv)
    · rw [capSlotFor, if_neg hv] at hs
      exact .inr (.inr (not_mem_iff.mpr hs))
  | some capSlot =>
    obtain ⟨hv, hk, ho⟩ | ⟨hv, hm, ho⟩ := capSlotFor_eq ht hs
    · rw [← hv] at ho hk
      exact iff_of_true (inOrder_sent hc hr hs ho hk) (.inr (.inl hv))
    by_cases hi : delivery.endpointSlot = SERVICE_INPUT_SLOT
    · rw [← hi] at ho
      exact iff_of_true (inOrder_sent hc hr hs ho (.inl ⟨hi, hm⟩)) (.inl hi)
    refine iff_of_false (fun ha => ?_) (by rintro (h | h | h) <;> contradiction)
    have hot : ¬ cap delivery.targetPid delivery.endpointSlot = some capSlot := by
      rw [hc.eq_some_iff ho]
      exact fun h => hi h.2.symm
    have hw := (ha delivery.targetPid delivery.endpointSlot).1
    have hp : (mail.takes (.Deliver delivery)).pendingFor delivery.targetPid
        delivery.endpointSlot = mail.pendingFor delivery.targetPid delivery.endpointSlot := by
      rw [takes_sent hs]
      rfl
    rw [sentOn_deliver hs, if_neg hot, List.append_nil, hp, (hr _ _).1, requestedFor_deliver] at hw
    simp at hw

lemma inOrder_learns_iff (ho : InOrder cap mail) (hs : next.sent = mail.sent)
    (hr : next.requested = mail.requested)
    (hw : next.init.pendingDeliveries = mail.init.pendingDeliveries)
    (hk : ∀ pid slot, next.Knows pid slot ↔
      (pid = servicePid ∧ slot = known) ∨ mail.Knows pid slot) :
    InOrder cap next ↔ mail.pendingFor servicePid known = [] := by
  have hp (pid slot : UInt32) : next.pendingFor pid slot = mail.pendingFor pid slot := by
    simp only [pendingFor, waiting, hw]
  constructor
  · intro ha
    rw [← hp]
    exact (ha ..).2 ((hk _ _).mpr (.inl ⟨rfl, rfl⟩))
  · intro hn pid slot
    rw [hp]
    refine ⟨?_, fun ha => ?_⟩
    · simp only [sentOn, requestedFor, hs, hr]
      exact (ho ..).1
    · obtain ⟨rfl, rfl⟩ | hb := (hk pid slot).mp ha
      · exact hn
      · exact (ho ..).2 hb

lemma inOrder_preregister_iff (ho : InOrder cap mail) :
    InOrder cap (mail.takes (.Preregister servicePid capSlot)) ↔
      mail.Uncrossed (.Preregister servicePid capSlot) := by
  refine inOrder_learns_iff ho (List.append_nil _) (List.append_nil _) rfl ?_
  simp only [Knows, takes, take, preregister, mem_insert]
  tauto

lemma inOrder_vfsGranted_iff (ho : InOrder cap mail) :
    InOrder cap (mail.takes (.VfsGranted servicePid capSlot)) ↔
      mail.Uncrossed (.VfsGranted servicePid capSlot) := by
  refine inOrder_learns_iff ho (List.append_nil _) (List.append_nil _) rfl ?_
  simp only [Knows, takes, take, vfsGranted, mem_insert]
  tauto

-- All that waits leaves over the one capability.

lemma sentOn_granted :
    (mail.takes (.Granted servicePid capSlot)).sentOn other = mail.sentOn other ++
      if other = some capSlot then (mail.init.waiting servicePid).map content else [] := by
  simp only [sentOn, takes, take, granted_sent]
  split_ifs with ht
  · simp [ht, List.filter_map, Function.comp_def]
  · simp [ht]

lemma pendingFor_granted :
    (mail.takes (.Granted servicePid capSlot)).pendingFor pid slot =
      if servicePid = pid then [] else mail.pendingFor pid slot := by
  simp only [pendingFor, takes, take, granted_waiting]
  split_ifs <;> rfl

lemma inOrder_granted_iff (hc : Distinct cap) (hr : InOrder cap mail)
    (ho : cap servicePid SERVICE_INPUT_SLOT = some capSlot) :
    InOrder cap (mail.takes (.Granted servicePid capSlot)) ↔
      mail.Uncrossed (.Granted servicePid capSlot) := by
  have he (pid slot : UInt32) :
      (mail.takes (.Granted servicePid capSlot)).requestedFor pid slot =
        mail.requestedFor pid slot := by
    simp only [requestedFor, takes, requestOf, List.append_nil]
  constructor
  · intro ha delivery hm
    by_contra ht
    have hw := (ha servicePid delivery.endpointSlot).1
    rw [sentOn_granted, pendingFor_granted, he, ← (hr _ _).1,
      if_neg (by rw [hc.eq_some_iff ho]; exact fun h => ht h.2.symm)] at hw
    have hn : mail.pendingFor servicePid delivery.endpointSlot = [] := by simpa using hw
    simp only [pendingFor, List.map_eq_nil_iff, List.filter_eq_nil_iff, decide_eq_true_eq] at hn
    exact hn _ hm rfl
  · intro hl pid slot
    rw [sentOn_granted, pendingFor_granted, he, ← (hr pid slot).1]
    simp only [hc.eq_some_iff ho]
    by_cases hp : servicePid = pid
    · subst hp
      by_cases hs : SERVICE_INPUT_SLOT = slot
      · subst hs
        have ho : mail.pendingFor servicePid SERVICE_INPUT_SLOT =
            (mail.init.waiting servicePid).map content := by
          rw [pendingFor, List.filter_eq_self.mpr]
          exact fun delivery hm => decide_eq_true (hl delivery hm)
        simp [ho]
      · have hn : mail.pendingFor servicePid slot = [] := by
          rw [pendingFor, List.filter_eq_nil_iff.mpr, List.map_nil]
          intro delivery hm hs'
          exact hs ((hl delivery hm).symm.trans (of_decide_eq_true hs'))
        simp [hs, hn]
    · rw [if_neg hp, if_neg (fun h => hp h.1), List.append_nil]
      refine ⟨rfl, fun ha => (hr ..).2 ?_⟩
      simp only [Knows, takes, take, granted_serviceCapSlots, granted_serviceVfsSlots,
        mem_insert, Ne.symm hp, false_or] at ha
      exact ha

lemma inOrder_takes_iff (hc : Distinct cap) (ht : Told cap mail.init)
    (ho : InOrder cap mail) (he : Tells cap notice) :
    InOrder cap (mail.takes notice) ↔ mail.Uncrossed notice := by
  cases notice with
  | Deliver => exact inOrder_deliver_iff hc ht ho
  | Preregister => exact inOrder_preregister_iff ho
  | Granted => exact inOrder_granted_iff hc ho he
  | VfsGranted => exact inOrder_vfsGranted_iff ho
  | Nothing =>
    have hs : mail.takes .Nothing = mail := by
      simp only [takes, take, requestOf, List.append_nil]
    rw [hs]
    exact iff_of_true ho trivial

end

lemma start_inOrder {init : Init} (he : init.pendingDeliveries = ∅) : InOrder cap (start init) := by
  intro pid slot
  simp [start, sentOn, pendingFor, requestedFor, waiting, he]

-- In every state of a run what was sent to an endpoint, and what waits for it, is in order,
-- exactly if no notice crosses another.
theorem run_inOrder_iff (cap : UInt32 → UInt32 → Option UInt32) (hcap : Distinct cap)
    (init : Init) (hempty : init.pendingDeliveries = ∅) (htold : Told cap init)
    (messages : List ReceivedMessage) (hlawful : ∀ msg ∈ messages, Lawful cap msg) :
    Run.Always step (InOrder cap) (start init) messages ↔
      Run.Along step (fun mail msg => mail.Uncrossed (.ofMessage msg)) (start init) messages := by
  have hk : ∀ (mail : Mail) (msg : ReceivedMessage), Told cap mail.init → Lawful cap msg →
      Told cap (mail.step msg).init := by
    intro mail msg htold hm
    rw [step_eq mail hm.1]
    exact Told.takes htold hm.2
  have hs : ∀ (mail : Mail) (msg : ReceivedMessage), Told cap mail.init → InOrder cap mail →
      Lawful cap msg → (InOrder cap (mail.step msg) ↔ mail.Uncrossed (.ofMessage msg)) := by
    intro mail msg htold ho hm
    rw [step_eq mail hm.1]
    exact inOrder_takes_iff hcap htold ho hm.2
  exact Run.always_iff_along _ hk hs htold (start_inOrder hempty)
    (Run.along_of_forall_mem _ hlawful (start init))

-- The endpoints of one process, and two runs: a message to its input endpoint waits for the
-- capability, and so does a response of the file system, which the notice of the other
-- capability then lets go to the input endpoint.

def capsOfFive (pid slot : UInt32) : Option UInt32 :=
  if pid = 5 ∧ slot = SERVICE_INPUT_SLOT then some 7
  else if pid = 5 ∧ slot = VFS_RESPONSE_SLOT then some 8
  else none

lemma capsOfFive_distinct : Distinct capsOfFive := by
  intro pid slot otherPid otherSlot capSlot ho ht
  unfold capsOfFive at ho ht
  grind

def deliveryMessage (slot tag : UInt32) : ReceivedMessage :=
  ⟨0, MSG_SUPERVISOR_IPC_DELIVERY, [], deliveryPayload 5 slot tag [1]⟩

def grantedMessage : ReceivedMessage :=
  ⟨0, MSG_SERVICE_CAP_GRANTED, [], wordBytes [5, 7]⟩

lemma lawful_messages (hs : slot = SERVICE_INPUT_SLOT ∨ slot = VFS_RESPONSE_SLOT) :
    ∀ msg ∈ [deliveryMessage slot 9, grantedMessage], Lawful capsOfFive msg := by
  have hd : Init.Notice.ofMessage (deliveryMessage slot 9) = .Deliver ⟨5, slot, 9, [1]⟩ := by
    obtain rfl | rfl := hs <;> decide +kernel
  have hg : Init.Notice.ofMessage grantedMessage = .Granted 5 7 := by decide +kernel
  intro msg hm
  simp only [List.mem_cons, List.not_mem_nil, or_false] at hm
  obtain rfl | rfl := hm
  · exact ⟨rfl, hd ▸ trivial⟩
  · exact ⟨rfl, hg ▸ rfl⟩

theorem run_inOrder_iff_waited :
    Run.Always step (InOrder capsOfFive) (start ⟨∅, ∅, ∅⟩)
      [deliveryMessage SERVICE_INPUT_SLOT 9, grantedMessage] := by
  refine (run_inOrder_iff _ capsOfFive_distinct ⟨∅, ∅, ∅⟩ rfl
    ⟨fun pid capSlot hk => by simp at hk, fun pid capSlot hk => by simp at hk⟩ _
    (lawful_messages (.inl rfl))).mpr ⟨?_, ?_, trivial⟩
  · exact .inl rfl
  · have hg : Init.Notice.ofMessage grantedMessage = .Granted 5 7 := by decide +kernel
    have hw : ((start ⟨∅, ∅, ∅⟩).step (deliveryMessage SERVICE_INPUT_SLOT 9)).init.waiting 5 =
        [⟨5, SERVICE_INPUT_SLOT, 9, [1]⟩] := by decide +kernel
    dsimp only
    rw [hg]
    intro delivery hm
    rw [hw, List.mem_singleton] at hm
    rw [hm]

theorem vfs_response_misrouted :
    (Run.run step (start ⟨∅, ∅, ∅⟩)
        [deliveryMessage VFS_RESPONSE_SLOT 9, grantedMessage]).sent =
      [(7, ⟨5, VFS_RESPONSE_SLOT, 9, [1]⟩)] ∧
      capsOfFive 5 SERVICE_INPUT_SLOT = some 7 ∧ capsOfFive 5 VFS_RESPONSE_SLOT = some 8 ∧
      ¬ Run.Always step (InOrder capsOfFive) (start ⟨∅, ∅, ∅⟩)
        [deliveryMessage VFS_RESPONSE_SLOT 9, grantedMessage] := by
  refine ⟨by decide +kernel, rfl, rfl, fun halways => ?_⟩
  have hl := (Run.Always.last step halways 5 SERVICE_INPUT_SLOT).1
  revert hl
  decide +kernel

end Mail

end ZeroOS
