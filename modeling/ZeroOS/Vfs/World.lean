import ZeroOS.Lib.Run
import ZeroOS.Vfs.Service.Lemmas
import ZeroOS.Vfs.Stages

/-!
The service together with the storage it works on and the messages that reach it.
-/

namespace ZeroOS.Vfs

open BTreeMap VfsService
open StorageResult

abbrev Store := String → Option (List UInt8)

namespace Store

variable (store : Store)

def after : StorageCall → Store
  | .Write key value => Function.update store key (some value)
  | .Delete key => Function.update store key none
  | .Read _ | .List _ | .Exists _ => store

-- The answer to a call that succeeds. What a listing looks like is left open.
def answer (listing : List UInt8) : StorageCall → UInt8 × List UInt8
  | .Read key =>
    match store key with
    | some value => (READ_OK, value)
    | none => (NOT_FOUND, [])
  | .Write _ _ | .Delete _ => (WRITE_OK, [])
  | .List _ => (LIST_OK, listing)
  | .Exists key => (EXISTS_OK, [if (store key).isSome then 1 else 0])

end Store

-- How storage deals with a call: it succeeds, or it changes nothing and gives some answer.
inductive Outcome where
  | Succeeds (listing : List UInt8)
  | Answers (resultType : UInt8) (data : List UInt8)

def Outcome.Honest : Outcome → Prop
  | .Succeeds _ => True
  | .Answers resultType _ => resultType = ERROR

structure Flight where
  owner : Nat
  call : StorageCall
  answer : Option (UInt8 × List UInt8)
deriving DecidableEq

structure Executed where
  owner : Nat
  call : StorageCall
  resultType : UInt8
  data : List UInt8

-- Requests are numbered in the order in which they arrive. The last five fields only record
-- what has happened.
structure World where
  service : VfsService
  store : Store
  flights : BTreeMap UInt32 Flight
  requests : List AppMessage
  admitted : List Nat
  failed : List (Nat × AppError)
  responses : List (Nat × Effect)
  history : List Executed

inductive Event where
  | Receive (sys : Syscalls) (msg : AppMessage)
  | Execute (id : UInt32) (outcome : Outcome)
  | Deliver (sys : Syscalls) (id : UInt32)

namespace World

def start (store : Store) : World := ⟨⟨∅⟩, store, ∅, [], [], [], [], []⟩

-- What is done while a message is handled is done for the request that the message serves.

def record (token : Nat) (world : World) : Effect → World
  | .Storage id call => { world with flights := world.flights.insert id ⟨token, call, none⟩ }
  | .Reply slot tag response =>
    { world with responses := world.responses ++ [(token, .Reply slot tag response)] }
  | .DebugResponse toPid tag response =>
    { world with responses := world.responses ++ [(token, .DebugResponse toPid tag response)] }

def errorsOf (token : Nat) : Except AppError Unit → List (Nat × AppError)
  | .ok () => []
  | .error e => [(token, e)]

section

variable (serde : Serde) (world : World)

def carryOut (token : Nat) (handled : Handled) : World :=
  handled.effects.foldl (record token)
    { world with
      service := handled.service
      failed := world.failed ++ errorsOf token handled.result }

def issues : Effect → Bool
  | .Storage _ _ => true
  | _ => false

def receive (sys : Syscalls) (msg : AppMessage) : World :=
  let token := world.requests.length
  let handled := world.service.onMessage serde sys msg
  { world with
    requests := world.requests ++ [msg]
    admitted := if handled.effects.any issues then world.admitted ++ [token]
      else world.admitted }.carryOut token handled

def execute (id : UInt32) (outcome : Outcome) : World :=
  match world.flights[id]? with
  | some ⟨owner, call, none⟩ =>
    match outcome with
    | .Succeeds listing =>
      let answer := world.store.answer listing call
      { world with
        store := world.store.after call
        flights := world.flights.insert id ⟨owner, call, some answer⟩
        history := world.history ++ [⟨owner, call, answer.1, answer.2⟩] }
    | .Answers resultType data =>
      { world with flights := world.flights.insert id ⟨owner, call, some (resultType, data)⟩ }
  | _ => world

def deliver (sys : Syscalls) (id : UInt32) : World :=
  match world.flights[id]? with
  | some ⟨owner, _, some (resultType, data)⟩ =>
    { world with flights := world.flights.erase id }.carryOut owner
      (world.service.storageCompleted serde sys ⟨id, resultType, data⟩)
  | _ => world

def step : Event → World
  | .Receive sys msg => world.receive serde sys msg
  | .Execute id outcome => world.execute id outcome
  | .Deliver sys id => world.deliver serde sys id

-- Clients send requests, not results.
def Unforged : Event → Prop
  | .Receive _ msg => msg.tag ≠ MSG_STORAGE_RESULT
  | .Execute _ _ => True
  | .Deliver _ _ => True

-- The request ids that storage calls are given are not in use.
def Fresh : Event → Prop
  | .Receive sys _ => ∀ n call id, sys.storage n call = .ok id →
      id.toUInt64.toUInt32 ∉ world.flights
  | .Execute _ _ => True
  | .Deliver sys _ => ∀ n call id, sys.storage n call = .ok id →
      id.toUInt64.toUInt32 ∉ world.flights

end

-- The storage calls that are made while the message is handled are accepted.
def Accepting : Event → Prop
  | .Receive sys _ => ∀ n call, ∃ id, sys.storage n call = .ok id
  | .Execute _ _ => True
  | .Deliver sys _ => ∀ n call, ∃ id, sys.storage n call = .ok id

structure Cooperative (world : World) (event : Event) : Prop where
  unforged : Unforged event
  fresh : Fresh world event
  accepting : Accepting event

structure Serves (serde : Serde) (world : World) (id : UInt32) (op : PendingOp) (flight : Flight)
    (msg : AppMessage) : Prop where
  pending : world.service.pendingOps[id]? = some op
  issued : world.flights[id]? = some flight
  requested : world.requests[flight.owner]? = some msg
  awaits : Awaits serde msg flight.call op

-- Exactly the calls in flight are waited for.
def Sound (serde : Serde) (world : World) : Prop :=
  ∀ id, (world.service.pendingOps[id]? = none ∧ world.flights[id]? = none) ∨
    ∃ op flight msg, Serves serde world id op flight msg

lemma Sound.serves (hsn : Sound serde world) {id : UInt32}
    (hf : world.flights[id]? = some flight) : ∃ op msg, Serves serde world id op flight msg := by
  obtain ⟨_, hn⟩ | ⟨op, _, msg, hs⟩ := hsn id
  · rw [hn] at hf
    cases hf
  · have ha := hs.issued
    rw [hf] at ha
    cases ha
    exact ⟨op, msg, hs⟩

def Delivers (world : World) (event : Event) (id : UInt32) : Prop :=
  ∃ sys owner call answer, event = .Deliver sys id ∧
    world.flights[id]? = some ⟨owner, call, some answer⟩

inductive Moves (serde : Serde) (world : World) : Event → World → Prop where
  -- The message is not understood, or there is no room for it.
  | ignored {sys : Syscalls} {msg : AppMessage} (errors : List AppError) :
      Moves serde world (.Receive sys msg)
        { world with
          requests := world.requests ++ [msg]
          failed := world.failed ++ errors.map fun e => (world.requests.length, e) }
  | rejected {sys : Syscalls} {msg : AppMessage} (response : Response) :
      Moves serde world (.Receive sys msg)
        { world with
          requests := world.requests ++ [msg]
          responses := world.responses ++ [(world.requests.length,
            .DebugResponse msg.fromPid (responseTag msg.tag) response)] }
  | admitted {sys : Syscalls} {msg : AppMessage} {id : UInt32} {call : StorageCall}
      {op : PendingOp} (hopens : Opens serde msg call op)
      (hroom : world.service.pendingOps.size < MAX_PENDING_OPS) (hfresh : id ∉ world.flights) :
      Moves serde world (.Receive sys msg)
        { world with
          service := ⟨world.service.pendingOps.insert id op⟩
          flights := world.flights.insert id ⟨world.requests.length, call, none⟩
          requests := world.requests ++ [msg]
          admitted := world.admitted ++ [world.requests.length] }
  | idle {event : Event} (hidle : ∀ id, ¬ Delivers world event id) :
      Moves serde world event world
  | succeeded {id : UInt32} {owner : Nat} {call : StorageCall} (listing : List UInt8)
      (hflight : world.flights[id]? = some ⟨owner, call, none⟩) :
      Moves serde world (.Execute id (.Succeeds listing))
        { world with
          store := world.store.after call
          flights := world.flights.insert id
            ⟨owner, call, some (world.store.answer listing call)⟩
          history := world.history ++ [⟨owner, call, (world.store.answer listing call).1,
            (world.store.answer listing call).2⟩] }
  | answered {id : UInt32} {owner : Nat} {call : StorageCall} (resultType : UInt8)
      (data : List UInt8) (hflight : world.flights[id]? = some ⟨owner, call, none⟩) :
      Moves serde world (.Execute id (.Answers resultType data))
        { world with
          flights := world.flights.insert id ⟨owner, call, some (resultType, data)⟩ }
  | responded {sys : Syscalls} {id : UInt32} {owner : Nat} {call : StorageCall}
      {op : PendingOp} {resultType : UInt8} {data : List UInt8} {msg : AppMessage}
      {response : Response} {effect : Effect}
      (hserves : Serves serde world id op ⟨owner, call, some (resultType, data)⟩ msg)
      (hresume : resume serde sys.wallclock op resultType data =
        .Respond msg.client (responseTag msg.tag) response)
      (haddressed : Addressed msg.client (responseTag msg.tag) response effect) :
      Moves serde world (.Deliver sys id)
        { world with
          service := ⟨world.service.pendingOps.erase id⟩
          flights := world.flights.erase id
          responses := world.responses ++ [(owner, effect)] }
  | continued {sys : Syscalls} {id next : UInt32} {owner : Nat} {call nextCall : StorageCall}
      {op nextOp : PendingOp} {resultType : UInt8} {data : List UInt8} {msg : AppMessage}
      (hserves : Serves serde world id op ⟨owner, call, some (resultType, data)⟩ msg)
      (hresume : resume serde sys.wallclock op resultType data = .Start nextCall nextOp)
      (hawaits : Awaits serde msg nextCall nextOp) (hless : stagesLeft nextOp < stagesLeft op)
      (hroom : (world.service.pendingOps.erase id).size < MAX_PENDING_OPS)
      (hfresh : next ∉ world.flights) :
      Moves serde world (.Deliver sys id)
        { world with
          service := ⟨(world.service.pendingOps.erase id).insert next nextOp⟩
          flights := (world.flights.erase id).insert next ⟨owner, nextCall, none⟩ }
  | aborted {sys : Syscalls} {id : UInt32} {owner : Nat} {call nextCall : StorageCall}
      {op nextOp : PendingOp} {resultType : UInt8} {data : List UInt8} {msg : AppMessage}
      (e : AppError) (hserves : Serves serde world id op ⟨owner, call, some (resultType, data)⟩ msg)
      (hresume : resume serde sys.wallclock op resultType data = .Start nextCall nextOp)
      (hrefused : VfsService.Refused sys ⟨world.service.pendingOps.erase id⟩ 0 nextCall) :
      Moves serde world (.Deliver sys id)
        { world with
          service := ⟨world.service.pendingOps.erase id⟩
          flights := world.flights.erase id
          failed := world.failed ++ [(owner, e)] }

section

variable {serde : Serde} {world : World}

lemma record_of_addressed (ha : Addressed ctx tag resp effect) :
    record token world effect =
      { world with responses := world.responses ++ [(token, effect)] } := by
  obtain ⟨_, _, rfl⟩ | rfl := ha <;> rfl

lemma carryOut_ok {service : VfsService} :
    world.carryOut token ⟨service, .ok (), [effect]⟩ =
      record token { world with service := service } effect := by
  simp only [carryOut, errorsOf, List.append_nil, List.foldl_cons, List.foldl_nil]

lemma receive_moves (ht : msg.tag ≠ MSG_STORAGE_RESULT) (hf : Fresh world (.Receive sys msg)) :
    Moves serde world (.Receive sys msg) (world.receive serde sys msg) := by
  unfold receive
  rw [onMessage, if_neg ht]
  have hb := handleRequest_begins serde msg
  generalize handleRequest serde msg = action at hb
  cases hb with
  | unknown => exact .ignored []
  | rejected resp =>
    rw [perform_respondViaDebug, carryOut_ok]
    exact .rejected resp
  | @starts call op ho =>
    rw [perform]
    obtain ⟨_, e, h⟩ | ⟨id, hi, hr, h⟩ := startStorage_cases sys world.service 0 call op
    · rw [h]
      exact .ignored [e]
    · rw [h, carryOut_ok]
      exact .admitted ho hr (hf 0 _ id hi)

lemma execute_moves (id : UInt32) (outcome : Outcome) :
    Moves serde world (.Execute id outcome) (world.execute id outcome) := by
  unfold execute
  have hi : ∀ other, ¬ Delivers world (.Execute id outcome) other := by
    rintro other ⟨_, _, _, _, he, _⟩
    cases he
  match hf : world.flights[id]? with
  | none | some ⟨_, _, some _⟩ => exact .idle hi
  | some ⟨_, _, none⟩ =>
    cases outcome with
    | Succeeds listing => exact .succeeded listing hf
    | Answers kind data => exact .answered kind data hf

lemma deliver_moves (hn : Sound serde world) {id : UInt32} (hfr : Fresh world (.Deliver sys id)) :
    Moves serde world (.Deliver sys id) (world.deliver serde sys id) := by
  unfold deliver
  have hi : (∀ owner call answer, world.flights[id]? ≠ some ⟨owner, call, some answer⟩) →
      ∀ other, ¬ Delivers world (.Deliver sys id) other := by
    rintro ho other ⟨_, owner, call, answer, he, hf⟩
    cases he
    exact ho _ _ _ hf
  match hf : world.flights[id]? with
  | none | some ⟨_, _, none⟩ => exact .idle (hi (by simp [hf]))
  | some ⟨owner, call, some (kind, data)⟩ =>
    obtain ⟨op, msg, hs⟩ := hn.serves hf
    simp only [storageCompleted, hs.pending]
    have hl := resume_leads hs.awaits sys.wallclock kind data
    generalize hr : resume serde sys.wallclock op kind data = action at hl
    cases hl with
    | responds resp =>
      obtain ⟨_, hp, ha⟩ := perform_respond serde sys
        ⟨world.service.pendingOps.erase id⟩ msg.client (responseTag msg.tag) resp
      rw [hp, carryOut_ok, record_of_addressed ha]
      exact .responded hs hr ha
    | @continues nextCall nextOp hw hb =>
      rw [perform]
      obtain ⟨hrf, e, h⟩ | ⟨next, hne, hm, h⟩ := startStorage_cases sys
        ⟨world.service.pendingOps.erase id⟩ 0 nextCall nextOp
      · rw [h]
        exact .aborted e hs hr hrf
      · rw [h, carryOut_ok]
        exact .continued hs hr hw hb hm (hfr 0 _ next hne)

lemma step_moves (hs : Sound serde world) {event : Event} (hu : Unforged event)
    (hf : Fresh world event) : Moves serde world event (world.step serde event) := by
  cases event with
  | Receive => exact receive_moves hu hf
  | Execute => exact execute_moves ..
  | Deliver => exact deliver_moves hs hf

lemma requests_append {owner : Nat} {requests : List AppMessage}
    (hr : requests[owner]? = some msg) (later : List AppMessage) :
    (requests ++ later)[owner]? = some msg := by
  obtain ⟨hl, _⟩ := List.getElem?_eq_some_iff.mp hr
  rwa [List.getElem?_append_left hl]

lemma Sound.change (hn : Sound serde world) (later : List AppMessage)
    (hr : next.requests = world.requests ++ later)
    (hi : ∀ id, (next.service.pendingOps[id]? = world.service.pendingOps[id]? ∧
        next.flights[id]? = world.flights[id]?) ∨
      (next.service.pendingOps[id]? = none ∧ next.flights[id]? = none) ∨
      ∃ op flight msg, Serves serde next id op flight msg) : Sound serde next := by
  intro id
  obtain ⟨he, hl⟩ | ho | hs := hi id
  · obtain ⟨hp, hf⟩ | ⟨op, flight, msg, hs⟩ := hn id
    · exact .inl ⟨he.trans hp, hl.trans hf⟩
    · refine .inr ⟨op, flight, msg, he.trans hs.pending, hl.trans hs.issued, ?_, hs.awaits⟩
      rw [hr]
      exact requests_append hs.requested _
  · exact .inl ho
  · exact .inr hs

lemma Sound.answer (hn : Sound serde world) {id : UInt32}
    (hl : world.flights[id]? = some ⟨owner, call, none⟩)
    {answer : Option (UInt8 × List UInt8)} (hv : next.service = world.service)
    (hf : next.flights = world.flights.insert id ⟨owner, call, answer⟩)
    (hr : next.requests = world.requests) : Sound serde next := by
  refine hn.change [] (by simpa using hr) ?_
  intro other
  rw [hv, hf, get_insert]
  by_cases he : id = other
  · subst he
    obtain ⟨op, msg, hs⟩ := hn.serves hl
    refine .inr (.inr ⟨op, ⟨owner, call, answer⟩, msg, ?_⟩)
    refine ⟨by rw [hv, hs.pending], by simp [hf], ?_, hs.awaits⟩
    rw [hr, hs.requested]
  · rw [if_neg he]
    exact .inl ⟨rfl, rfl⟩

lemma Sound.finish (hs : Sound serde world) {id : UInt32}
    (hv : next.service = ⟨world.service.pendingOps.erase id⟩)
    (hf : next.flights = world.flights.erase id)
    (hr : next.requests = world.requests) : Sound serde next := by
  refine hs.change [] (by simpa using hr) ?_
  intro other
  rw [hv, hf, get_erase, get_erase]
  by_cases he : id = other
  · rw [if_pos he, if_pos he]
    exact .inr (.inl ⟨rfl, rfl⟩)
  · rw [if_neg he, if_neg he]
    exact .inl ⟨rfl, rfl⟩

lemma Moves.sound (hm : Moves serde world event next) (hs : Sound serde world) :
    Sound serde next := by
  cases hm with
  | ignored | rejected => exact hs.change _ rfl fun _ => .inl ⟨rfl, rfl⟩
  | @admitted sys msg id call op hp ho hr =>
    refine hs.change _ rfl ?_
    intro other
    by_cases he : id = other
    · subst he
      refine .inr (.inr ⟨op, ⟨world.requests.length, call, none⟩, msg, ?_⟩)
      exact ⟨by simp, by simp, by simp, hp.awaits⟩
    · exact .inl ⟨get_insert_ne he, get_insert_ne he⟩
  | idle => exact hs
  | succeeded _ hf | answered _ _ hf => exact hs.answer hf rfl rfl rfl
  | responded | aborted => exact hs.finish rfl rfl rfl
  | @continued sys id next owner call nextCall op nextOp _ _ msg hsr _ ha _ _ hr =>
    refine hs.change [] (by simp) ?_
    intro other
    by_cases hn : next = other
    · subst hn
      refine .inr (.inr ⟨nextOp, ⟨owner, nextCall, none⟩, msg, ?_⟩)
      exact ⟨by simp, by simp, hsr.requested, ha⟩
    · rw [get_insert_ne hn, get_insert_ne hn, get_erase, get_erase]
      by_cases he : id = other
      · rw [if_pos he, if_pos he]
        exact .inr (.inl ⟨rfl, rfl⟩)
      · rw [if_neg he, if_neg he]
        exact .inl ⟨rfl, rfl⟩

lemma size_erase_lt {ops : BTreeMap UInt32 PendingOp} {id : UInt32} (ho : ops[id]? = some op)
    (hr : ops.size ≤ MAX_PENDING_OPS) : (ops.erase id).size < MAX_PENDING_OPS := by
  have hm : id ∈ ops := (mem_iff ..).mpr ⟨op, ho⟩
  rw [Std.ExtTreeMap.size_erase, if_pos (Std.ExtTreeMap.mem_iff_contains.mp hm)]
  unfold MAX_PENDING_OPS at *
  omega

lemma size_insert_le {ops : BTreeMap UInt32 PendingOp} (id : UInt32)
    (hr : ops.size < MAX_PENDING_OPS) : (ops.insert id op).size ≤ MAX_PENDING_OPS :=
  Nat.le_trans Std.ExtTreeMap.size_insert_le hr

lemma Moves.room (hm : Moves serde world event next)
    (hr : world.service.pendingOps.size ≤ MAX_PENDING_OPS) :
    next.service.pendingOps.size ≤ MAX_PENDING_OPS := by
  cases hm with
  | ignored _ | rejected _ | idle _ | succeeded _ _ | answered _ _ _ => exact hr
  | admitted _ hl | continued _ _ _ _ hl => exact size_insert_le _ hl
  | responded hs | aborted _ hs =>
    exact Nat.le_of_lt (size_erase_lt hs.pending hr)

lemma start_sound (store : Store) : Sound serde (start store) := by
  intro id
  exact .inl ⟨by simp [start], by simp [start]⟩

lemma run_of_moves {cond : World → Event → Prop} {inv : World → Prop}
    (hc : ∀ world event, cond world event → Unforged event ∧ Fresh world event)
    (hm : ∀ world event next, Sound serde world → inv world → cond world event →
      Moves serde world event next → inv next) (hs : Sound serde world) (hi : inv world)
    (ha : Run.Along (step serde) cond world events) :
    Sound serde (Run.run (step serde) world events) ∧ inv (Run.run (step serde) world events) := by
  refine Run.run_invariant (step serde) cond (fun world => Sound serde world ∧ inv world) ?_
    ⟨hs, hi⟩ ha
  rintro world event ⟨hs, hn⟩ he
  obtain ⟨hu, hf⟩ := hc world event he
  have ht := step_moves hs hu hf
  exact ⟨ht.sound hs, hm _ _ _ hs hn he ht⟩

end

end World

end ZeroOS.Vfs
