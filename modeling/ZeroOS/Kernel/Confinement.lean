import ZeroOS.Kernel.Platform
import ZeroOS.Kernel.System.Shade
import ZeroOS.Keystore.Service
import ZeroOS.Supervisor.Routing

/-!
Who can get at the stores, and who sees what is in the keystore.
-/

namespace ZeroOS.Platform

open Keystore (MSG_KEYSTORE_RESULT)

-- `initEndpointSlot` is the capability by which the supervisor sends to Init.
structure World (γ δ : Type) where
  system : System
  initEndpointSlot : Option CapSlot
  storage : Store γ
  keystore : Store δ

inductive Event where
  | Call (hal : Hal) (op : SystemOp)
  | Execute (area : Area) (index : Nat)
  | Notify (hal : Hal) (area : Area) (index : Nat)

-- What a process gets to see: the result code and the bytes that its own raw syscalls return.
-- Messages, the results of its requests among them, come to it in this way.
abbrev Observation := Int64 × List UInt8

def Area.resultTag : Area → UInt32
  | .Storage => MSG_STORAGE_RESULT
  | .Keystore => MSG_KEYSTORE_RESULT

namespace World

variable {γ δ : Type}

def new (system : System) (initEndpointSlot : Option CapSlot) (storage : γ) (keystore : δ) :
    World γ δ :=
  ⟨system, initEndpointSlot, .new storage, .new keystore⟩

def request (world : World γ δ) (request : Request) :
    World γ δ × Except HalError StorageRequestId :=
  match request.area with
  | .Storage =>
    let (storage, answer) := world.storage.request MAX_PENDING_STORAGE_REQUESTS request.pid
      request.operation
    ({ world with storage }, answer)
  | .Keystore =>
    let (keystore, answer) := world.keystore.request MAX_PENDING_KEYSTORE_REQUESTS request.pid
      request.operation
    ({ world with keystore }, answer)

def hal (world : World γ δ) (base : Hal) : Hal :=
  base.withStores fun request => (world.request request).2

-- The stores after a call.
def takeRequest (world : World γ δ) (op : SystemOp) : World γ δ :=
  match op.request with
  | none => world
  | some request => (world.request request).1

def notified (world : World γ δ) (area : Area) (index : Nat) :
    Option (ProcessId × StorageRequestId × Completion) :=
  match area with
  | .Storage => (world.storage.notify index).2
  | .Keystore => (world.keystore.notify index).2

-- `deliver_storage_result` and `deliver_keystore_result`: a result is put into the queue of Init,
-- which is to hand it on to the process.
def deliver (world : World γ δ) (hal : Hal) (area : Area) :
    Option (ProcessId × StorageRequestId × Completion) → System
  | none => world.system
  | some (pid, requestId, completion) =>
    let supervisor : Supervisor := ⟨world.system, hal, world.initEndpointSlot, ∅⟩
    (supervisor.routeIpcViaInit pid SERVICE_INPUT_SLOT area.resultTag
      (StorageResult.payload ⟨requestId, completion.resultType, completion.data⟩)).1.system

lemma deliver_of_slot {world : World γ δ} {hal : Hal} (hs : world.initEndpointSlot = some slot) :
    world.deliver hal area (some (pid, requestId, completion)) =
      (world.system.ipcSend hal 0 slot MSG_SUPERVISOR_IPC_DELIVERY
        (deliveryPayload pid SERVICE_INPUT_SLOT area.resultTag
          (StorageResult.payload ⟨requestId, completion.resultType, completion.data⟩))).1 := by
  simp only [deliver, Supervisor.routeIpcViaInit, hs]
  split <;> simp_all

def observe (pid : ProcessId) (world : World γ δ) : Event → List Observation
  | .Call hal (.ProcessSyscall sender syscallNum args data) =>
    if sender = pid then
      let (_, result, _, response) :=
        world.system.processSyscall (world.hal hal) sender syscallNum args data
      [(result, response)]
    else []
  | _ => []

variable (serve : γ → Operation → γ × Completion) (serveKeys : δ → Operation → δ × Completion)

def step (world : World γ δ) : Event → World γ δ
  | .Call hal op => { world.takeRequest op with system := world.system.step (world.hal hal, op) }
  | .Execute .Storage index => { world with storage := world.storage.execute serve index }
  | .Execute .Keystore index => { world with keystore := world.keystore.execute serveKeys index }
  | .Notify hal .Storage index =>
    { world with
      system := world.deliver hal .Storage (world.notified .Storage index)
      storage := (world.storage.notify index).1 }
  | .Notify hal .Keystore index =>
    { world with
      system := world.deliver hal .Keystore (world.notified .Keystore index)
      keystore := (world.keystore.notify index).1 }

end World

-- What a request of a raw syscall must look like for the platform to be asked: 0x71 and 0x81 take
-- the length of a key, the key and a value, the other numbers take a key.
def WellFormed (syscallNum : UInt32) (data : List UInt8) : Prop :=
  if syscallNum = 0x71 ∨ syscallNum = 0x81 then
    ∃ key value, splitPrefixed data = some (key, value) ∧ (fromUtf8 key).isSome
  else (fromUtf8 data).isSome

-- No process but its service makes a request for an area.
def Event.Lawful : Event → Prop
  | .Call _ (.ProcessSyscall sender syscallNum _ data) =>
    (0x70 ≤ syscallNum ∧ syscallNum ≤ 0x74 → WellFormed syscallNum data → sender = 4) ∧
      (0x80 ≤ syscallNum ∧ syscallNum ≤ 0x84 → WellFormed syscallNum data → sender = 7)
  | _ => True

-- What the keystore service does by itself: syscalls that concern neither the kernel nor a store.
def Event.Private : Event → Prop
  | .Call _ (.ProcessSyscall sender syscallNum _ _) =>
    sender = 7 ∧ syscallNum ∉ RawCall.numbers ∧ ¬ (0x70 ≤ syscallNum ∧ syscallNum ≤ 0x74) ∧
      ¬ (0x80 ≤ syscallNum ∧ syscallNum ≤ 0x84)
  | _ => False

-- A result of the keystore on its way to the service: from the supervisor to Init, or from Init.
def relays (msg : Message) : Bool :=
  (msg.fromPid = 0 ∧ msg.tag = MSG_SUPERVISOR_IPC_DELIVERY ∧
      leWord32 (msg.data.drop 8) = MSG_KEYSTORE_RESULT) ∨
    (msg.fromPid = 1 ∧ msg.tag = MSG_KEYSTORE_RESULT)

def World.OnBehalf {γ δ : Type} (world : World γ δ) : Event → Prop
  | .Call hal op => ∀ request, Reaches world.system hal op request →
      request.pid = request.area.service
  | _ => True

-- A result of the keystore is for its service.
def World.Addressed {γ δ : Type} (world : World γ δ) : Event → Prop
  | .Notify _ .Keystore index => ∀ pid requestId completion,
      world.notified .Keystore index = some (pid, requestId, completion) → pid = 7
  | _ => True

section

variable {γ δ : Type} (serve : γ → Operation → γ × Completion)
  (serveKeys : δ → Operation → δ × Completion)

-- The stores are used by their services alone.
def Guarded (system : System) (initSlot : Option CapSlot) (storage : γ) (keystore : δ)
    (events : List Event) : Prop :=
  Run.Along (World.step serve serveKeys) World.OnBehalf (.new system initSlot storage keystore)
    events

end

namespace Store

variable {γ : Type} {store : Store γ}

def WaitsFor (pid : ProcessId) (store : Store γ) : Prop :=
  BTreeMap.Every store.pending fun owner => owner = pid

lemma WaitsFor.new (pid : ProcessId) (contents : γ) : (Store.new contents).WaitsFor pid := by
  intro id owner ho
  simp [Store.new] at ho

lemma WaitsFor.request (hw : store.WaitsFor pid) :
    (store.request limit pid operation).1.WaitsFor pid := by
  unfold Store.request
  dsimp only
  split_ifs
  · exact hw
  · exact BTreeMap.Every.insert hw store.nextRequestId rfl

lemma WaitsFor.execute (hw : store.WaitsFor pid) : (store.execute serve index).WaitsFor pid := by
  unfold Store.execute
  split
  · exact hw
  · exact hw

lemma WaitsFor.notify (hw : store.WaitsFor pid) (index : Nat) :
    (store.notify index).1.WaitsFor pid ∧
      ∀ owner requestId completion,
        (store.notify index).2 = some (owner, requestId, completion) → owner = pid := by
  unfold Store.notify
  cases store.finished[index]? with
  | none => exact ⟨hw, nofun⟩
  | some result =>
    obtain ⟨requestId, completion⟩ := result
    dsimp only
    cases hp : store.pending[requestId]? with
    | none => exact ⟨hw, nofun⟩
    | some =>
      refine ⟨BTreeMap.Every.erase hw requestId, ?_⟩
      rintro _ _ _ ⟨⟩
      exact hw _ _ hp

-- The same requests are under way, whatever they ask for and are answered.
structure Alike (first second : Store γ) : Prop where
  nextRequestId : second.nextRequestId = first.nextRequestId
  pending : second.pending = first.pending
  started : second.started.map Prod.fst = first.started.map Prod.fst
  finished : second.finished.map Prod.fst = first.finished.map Prod.fst

lemma get_of_ids {first second : List (StorageRequestId × α)}
    (hi : second.map Prod.fst = first.map Prod.fst) (index : Nat) :
    (first[index]? = none ∧ second[index]? = none) ∨
      ∃ id value value', first[index]? = some (id, value) ∧ second[index]? = some (id, value') := by
  have hg := congrArg (·[index]?) hi
  simp only [List.getElem?_map] at hg
  cases hf : first[index]? with
  | none =>
    rw [hf] at hg
    exact .inl ⟨rfl, Option.map_eq_none_iff.mp hg⟩
  | some entry =>
    rw [hf] at hg
    obtain ⟨⟨id, value'⟩, hs, rfl⟩ := Option.map_eq_some_iff.mp hg
    exact .inr ⟨_, entry.2, value', rfl, hs⟩

lemma ids_eraseIdx {first second : List (StorageRequestId × α)}
    (hi : second.map Prod.fst = first.map Prod.fst) (index : Nat) :
    (second.eraseIdx index).map Prod.fst = (first.eraseIdx index).map Prod.fst := by
  simp only [List.eraseIdx_eq_take_drop_succ, List.map_append, List.map_take, List.map_drop, hi]

section

variable {first second : Store γ} (hlike : Alike first second)

include hlike

lemma Alike.request (limit : Nat) (pid : ProcessId) (operation operation' : Operation) :
    (second.request limit pid operation').2 = (first.request limit pid operation).2 ∧
      Alike (first.request limit pid operation).1 (second.request limit pid operation').1 := by
  obtain ⟨hn, hp, hs, hf⟩ := hlike
  unfold Store.request
  dsimp only
  rw [hp, hn]
  split_ifs
  · exact ⟨rfl, rfl, rfl, hs, hf⟩
  · refine ⟨rfl, rfl, rfl, ?_, hf⟩
    rw [List.map_append, List.map_append, hs]
    rfl

lemma Alike.execute (serve : γ → Operation → γ × Completion) (index : Nat) :
    Alike (first.execute serve index) (second.execute serve index) := by
  obtain ⟨hn, hp, hs, hf⟩ := hlike
  unfold Store.execute
  obtain ⟨h, h'⟩ | ⟨id, _, _, h, h'⟩ := get_of_ids hs index
  · rw [h, h']
    exact ⟨hn, hp, hs, hf⟩
  · rw [h, h']
    refine ⟨hn, hp, ids_eraseIdx hs index, ?_⟩
    rw [List.map_append, List.map_append, hf]
    rfl

lemma Alike.notify (index : Nat) :
    Alike (first.notify index).1 (second.notify index).1 ∧
      (((first.notify index).2 = none ∧ (second.notify index).2 = none) ∨
        ∃ pid id completion completion', (first.notify index).2 = some (pid, id, completion) ∧
          (second.notify index).2 = some (pid, id, completion')) := by
  obtain ⟨hn, hp, hs, hf⟩ := hlike
  unfold Store.notify
  obtain ⟨h, h'⟩ | ⟨id, completion, completion', h, h'⟩ := get_of_ids hf index
  · rw [h, h']
    exact ⟨⟨hn, hp, hs, hf⟩, .inl ⟨rfl, rfl⟩⟩
  · have he := ids_eraseIdx hf index
    rw [h, h']
    dsimp only
    rw [hp]
    cases first.pending[id]? with
    | none => exact ⟨⟨hn, rfl, hs, he⟩, .inl ⟨rfl, rfl⟩⟩
    | some pid =>
      exact ⟨⟨hn, rfl, hs, he⟩, .inr ⟨pid, id, completion, completion', rfl, rfl⟩⟩

end

end Store

-- What is hidden: what the keystore service says, and results on their way to it.

lemma leWord32_take_four (bytes : List UInt8) : leWord32 (bytes.take 4) = leWord32 bytes := by
  obtain _ | ⟨_, _ | ⟨_, _ | ⟨_, _ | ⟨_, _⟩⟩⟩⟩ := bytes <;> rfl

def coverSecret (msg : Message) : Message :=
  if msg.fromPid = 7 then { msg with tag := 0, data := [] }
  else if msg.fromPid = 0 then { msg with data := msg.data.take 12 }
  else { msg with data := [] }

lemma coverSecret_keeps (msg : Message) :
    (coverSecret msg).fromPid = msg.fromPid ∧
      (coverSecret msg).transferredCaps = msg.transferredCaps := by
  unfold coverSecret
  split_ifs <;> exact ⟨rfl, rfl⟩

lemma hides_coverSecret (msg : Message) (hm : (msg.fromPid = 7 || relays msg) = true) :
    ((coverSecret msg).fromPid = 7 || relays (coverSecret msg)) = true := by
  have hp := (coverSecret_keeps msg).1
  simp only [relays, Bool.or_eq_true, decide_eq_true_eq] at hm ⊢
  obtain hs | ⟨hz, ht, hd⟩ | ⟨ho, ht⟩ := hm
  · exact .inl (hp.trans hs)
  · refine .inr (.inl ⟨hp.trans hz, ?_⟩)
    have hn : msg.fromPid ≠ 7 := by
      rw [hz]
      decide
    rw [coverSecret, if_neg hn, if_pos hz]
    refine ⟨ht, ?_⟩
    rw [List.drop_take]
    exact (leWord32_take_four _).trans hd
  · refine .inr (.inr ⟨hp.trans ho, ?_⟩)
    have hn : msg.fromPid ≠ 7 ∧ msg.fromPid ≠ 0 := by
      rw [ho]
      decide
    rw [coverSecret, if_neg hn.1, if_neg hn.2]
    exact ht

def secrets : Veil where
  hides msg := msg.fromPid = 7 || relays msg
  cover := coverSecret
  hides_cover := hides_coverSecret
  fromPid_cover msg := (coverSecret_keeps msg).1
  transferredCaps_cover msg := (coverSecret_keeps msg).2

namespace World

variable {γ δ : Type}

structure Alike (first second : World γ δ) : Prop where
  kernel : KernelCore.SameShade secrets first.system.kernel second.system.kernel
  bootTime : second.system.bootTime = first.system.bootTime
  initEndpointSlot : second.initEndpointSlot = first.initEndpointSlot
  storage : second.storage = first.storage
  keystore : first.keystore.Alike second.keystore

section

variable (serve : γ → Operation → γ × Completion) (serveKeys : δ → Operation → δ × Completion)

end

namespace Alike

variable {first second : World γ δ} (hlike : Alike first second)

include hlike

lemma uptimeNanos (hal : Hal) :
    second.system.uptimeNanos (second.hal hal) = first.system.uptimeNanos (first.hal hal) := by
  unfold System.uptimeNanos
  rw [hlike.bootTime]
  rfl

lemma takeRequest (op : SystemOp) :
    (second.takeRequest op).initEndpointSlot = (first.takeRequest op).initEndpointSlot ∧
      (second.takeRequest op).storage = (first.takeRequest op).storage ∧
      (first.takeRequest op).keystore.Alike (second.takeRequest op).keystore := by
  unfold World.takeRequest
  cases op.request with
  | none => exact ⟨hlike.initEndpointSlot, hlike.storage, hlike.keystore⟩
  | some request =>
    obtain ⟨area, _, _⟩ := request
    cases area with
    | Storage =>
      refine ⟨hlike.initEndpointSlot, ?_, hlike.keystore⟩
      simp only [World.request, hlike.storage]
    | Keystore =>
      exact ⟨hlike.initEndpointSlot, hlike.storage, (hlike.keystore.request ..).2⟩

variable (serve : γ → Operation → γ × Completion) (serveKeys : δ → Operation → δ × Completion)

-- What is routed to Init differs at most in hidden parts.
lemma deliver (hal : Hal) (area : Area) {requestId : StorageRequestId}
    {completion completion' : Completion}
    (hm : Message.veil secrets ⟨0, MSG_SUPERVISOR_IPC_DELIVERY,
        deliveryPayload pid SERVICE_INPUT_SLOT area.resultTag
          (StorageResult.payload ⟨requestId, completion'.resultType, completion'.data⟩), []⟩ =
      Message.veil secrets ⟨0, MSG_SUPERVISOR_IPC_DELIVERY,
        deliveryPayload pid SERVICE_INPUT_SLOT area.resultTag
          (StorageResult.payload ⟨requestId, completion.resultType, completion.data⟩), []⟩) :
    KernelCore.SameShade secrets
        (first.deliver hal area (some (pid, requestId, completion))).kernel
        (second.deliver hal area (some (pid, requestId, completion'))).kernel ∧
      (second.deliver hal area (some (pid, requestId, completion'))).bootTime =
        (first.deliver hal area (some (pid, requestId, completion))).bootTime := by
  obtain ⟨hk, hb, hi, -, -⟩ := hlike
  have hu : second.system.uptimeNanos hal = first.system.uptimeNanos hal := by
    unfold System.uptimeNanos
    rw [hb]
  cases hs : first.initEndpointSlot with
  | none =>
    have hs' := hi.trans hs
    simp only [World.deliver, Supervisor.routeIpcViaInit, hs, hs']
    exact ⟨hk, hb⟩
  | some slot =>
    rw [deliver_of_slot hs, deliver_of_slot (hi.trans hs)]
    refine ⟨?_, hb⟩
    have hq := hk.ipcSend 0 slot (first.system.uptimeNanos hal) hm
    rw [← hu] at hq
    simp only [System.ipcSend, System.recordCommits]
    rw [← hu]
    exact hq.2

end Alike

variable (serve : γ → Operation → γ × Completion) (serveKeys : δ → Operation → δ × Completion)

end World

end ZeroOS.Platform
