import ZeroOS.Keystore.Requests
import ZeroOS.Lib.Docket
import ZeroOS.Vfs.Json

/-!
The keystore service is an atomic map.
-/

namespace ZeroOS.Keystore

open List KeystoreService BTreeMap BTreeMap.Paired
open Vfs (AppMessage ClientContext AppError StorageCall)
open StorageResult

namespace World

-- The operation that waits for a call belongs to the request that the call was issued for.
def Fits (serde : Serde) (requests : List AppMessage) (op : PendingOp) (flight : Flight) : Prop :=
  ∃ msg, requests[flight.owner]? = some msg ∧ Asks serde msg flight.call ∧
    op = opFor (.fromMessage msg) flight.call ∧
    ∀ answer, flight.answer = some answer → 9 + answer.2.length < 4294967296

-- Exactly the calls in flight are waited for.
def Sound (serde : Serde) (world : World) : Prop :=
  BTreeMap.Paired (Fits serde world.requests) world.service.pendingOps world.flights

structure Serves (serde : Serde) (world : World) (id : UInt32) (flight : Flight)
    (msg : AppMessage) : Prop where
  pending : world.service.pendingOps[id]? = some (opFor (.fromMessage msg) flight.call)
  issued : world.flights[id]? = some flight
  requested : world.requests[flight.owner]? = some msg
  asks : Asks serde msg flight.call
  bounded : ∀ answer, flight.answer = some answer → 9 + answer.2.length < 4294967296

inductive Moves (serde : Serde) (world : World) : Event → World → Prop where
  | ignored {sys : Syscalls} {msg : AppMessage} (hnot : ¬ Rejected serde msg) :
      Moves serde world (.Receive sys msg) { world with requests := world.requests ++ [msg] }
  | rejected {sys : Syscalls} {msg : AppMessage} {response : Response}
      (hrejected : Rejected serde msg) (herror : response.isOk = false) :
      Moves serde world (.Receive sys msg)
        { world with
          requests := world.requests ++ [msg]
          responses := world.responses ++ [(world.requests.length,
            .DebugResponse msg.fromPid (responseTag msg.tag) response)] }
  | admitted {sys : Syscalls} {msg : AppMessage} {id : UInt32} {call : StorageCall}
      (hasks : Asks serde msg call) (hroom : world.service.pendingOps.size < MAX_PENDING_OPS)
      (hfresh : id ∉ world.flights) :
      Moves serde world (.Receive sys msg)
        { world with
          service := ⟨world.service.pendingOps.insert id (opFor (.fromMessage msg) call)⟩
          flights := world.flights.insert id ⟨world.requests.length, call, none⟩
          requests := world.requests ++ [msg]
          admitted := world.admitted ++ [world.requests.length] }
  | idle {event : Event} : Moves serde world event world
  | executed {id : UInt32} {owner : Nat} {call : StorageCall} {resultType : UInt8}
      {data : List UInt8} (hflight : world.flights[id]? = some ⟨owner, call, none⟩)
      (hlength : 9 + data.length < 4294967296)
      (hanswers : world.contents.Answers serde call resultType data) :
      Moves serde world (.Execute id resultType data)
        { world with
          contents := world.contents.execute ⟨owner, call, resultType = ERROR⟩
          flights := world.flights.insert id ⟨owner, call, some (resultType, data)⟩
          history := world.history ++ [⟨owner, call, resultType = ERROR⟩] }
  | responded {sys : Syscalls} {id : UInt32} {owner : Nat} {call : StorageCall}
      {resultType : UInt8} {data : List UInt8} {msg : AppMessage} {response : Response}
      {effect : Effect}
      (hserves : Serves serde world id ⟨owner, call, some (resultType, data)⟩ msg)
      (hresume : resume serde (opFor (.fromMessage msg) call) resultType data =
        .Respond (.fromMessage msg) (responseTag msg.tag) response)
      (haddressed : Addressed (.fromMessage msg) (responseTag msg.tag) response effect) :
      Moves serde world (.Deliver sys id)
        { world with
          service := ⟨world.service.pendingOps.erase id⟩
          flights := world.flights.erase id
          responses := world.responses ++ [(owner, effect)] }

section

variable {serde : Serde} {world next : World}

lemma Sound.serves (hs : Sound serde world) {id : UInt32}
    (hf : world.flights[id]? = some flight) : ∃ msg, Serves serde world id flight msg := by
  obtain ⟨_, ho, msg, hr, ha, rfl, hb⟩ := left hs hf
  exact ⟨msg, ho, hf, hr, ha, hb⟩

lemma record_of_addressed (ha : Addressed ctx tag resp effect) :
    record token world effect =
      { world with responses := world.responses ++ [(token, effect)] } := by
  obtain ⟨_, _, rfl⟩ | rfl := ha <;> rfl

lemma handleKeystoreResult_of_unforged (ht : msg.tag = MSG_KEYSTORE_RESULT)
    (hu : ¬ Forges world msg) :
    world.service.handleKeystoreResult serde sys msg = ⟨world.service, .ok (), []⟩ := by
  unfold handleKeystoreResult parseStorageResult
  by_cases hs : msg.data.length < 9
  · rw [if_pos hs]
  · have hn : world.service.pendingOps[leWord32 msg.data]? = none :=
      not_mem_iff.mp fun hm => hu ⟨ht, Nat.le_of_not_lt hs, .inl hm⟩
    rw [if_neg hs]
    simp only [keystoreCompleted, hn]

lemma handle_of_fits (ha : world.aborted = false)
    (hf : ¬ (msg.tag = MSG_KEYSTORE_RESULT ∧ Browser.ResultWraps msg.data)) :
    world.handle serde sys msg = some (world.service.onMessage serde sys msg) := by
  rw [handle, ha, Browser.KeystoreService.onMessage_reads.fits hf]
  rfl

lemma receive_moves (ha : world.aborted = false) (hl : Lawful serde world (.Receive sys msg))
    (hu : ¬ Forges world msg) :
    Moves serde world (.Receive sys msg) (world.receive serde sys msg) := by
  have hf : ¬ (msg.tag = MSG_KEYSTORE_RESULT ∧ Browser.ResultWraps msg.data) :=
    fun hw => hu ⟨hw.1, hw.2.1, .inr hw.2⟩
  unfold receive
  rw [handle_of_fits ha hf]
  unfold onMessage
  by_cases ht : msg.tag = MSG_KEYSTORE_RESULT
  · rw [if_pos ht, handleKeystoreResult_of_unforged ht hu]
    refine .ignored fun hr => ?_
    have hq := hr.1
    rw [ht] at hq
    exact absurd hq (by decide)
  · rw [if_neg ht]
    have hb := @handleRequest_begins serde msg
    generalize handleRequest serde msg = action at hb
    cases hb with
    | unknown hn => exact .ignored fun hr => hn hr.1
    | rejected hr he =>
      rw [perform_respondViaDebug]
      exact .rejected hr he
    | @starts call ha =>
      rw [perform]
      obtain ⟨e, h⟩ | ⟨id, hi, ho, h⟩ := startKeystore_cases sys world.service
      · rw [h]
        exact .ignored fun hr => hr.2 _ ha
      · rw [h]
        exact .admitted ha ho (hl _ id hi)

lemma execute_moves {id : UInt32} {resultType : UInt8} {data : List UInt8}
    (hl : Lawful serde world (.Execute id resultType data)) :
    Moves serde world (.Execute id resultType data) (world.execute id resultType data) := by
  unfold execute
  match hf : world.flights[id]? with
  | none | some ⟨_, _, some _⟩ => exact .idle
  | some ⟨_, _, none⟩ => exact .executed hf hl.1 (hl.2 _ _ hf)

lemma deliver_moves (ha : world.aborted = false) (hn : Sound serde world) {id : UInt32} :
    Moves serde world (.Deliver sys id) (world.deliver serde sys id) := by
  unfold deliver
  match hf : world.flights[id]? with
  | none | some ⟨_, _, none⟩ => exact .idle
  | some ⟨_, _, some (resultType, data)⟩ =>
    obtain ⟨msg, hs⟩ := hn.serves hf
    have hb := hs.bounded _ rfl
    have hp := StorageResult.parse_payload ⟨id, resultType, data⟩ (Nat.lt_of_add_left_lt hb)
    have hw : ¬ ((resultMessage id resultType data).tag = MSG_KEYSTORE_RESULT ∧
        Browser.ResultWraps (resultMessage id resultType data).data) :=
      fun h => Browser.payload_fits hb h.2
    obtain ⟨resp, hr⟩ := resume_responds hs.asks (.fromMessage msg) resultType data
    obtain ⟨_, he, hd⟩ := perform_respond serde sys
      ⟨world.service.pendingOps.erase id⟩ (.fromMessage msg) (responseTag msg.tag) resp
    dsimp only
    rw [handle_of_fits ha hw]
    simp only [onMessage, resultMessage, if_true, handleKeystoreResult, hp, keystoreCompleted,
      hs.pending, hr, he, carryOut, foldl_cons]
    rw [record_of_addressed hd]
    exact .responded hs hr hd

lemma step_moves (ha : world.aborted = false) (hs : Sound serde world) {event : Event}
    (hl : Lawful serde world event) (hu : Unforged world event) :
    Moves serde world event (world.step serde event) := by
  cases event with
  | Receive => exact receive_moves ha hl hu
  | Execute => exact execute_moves hl
  | Deliver => exact deliver_moves ha hs

lemma Moves.aborted (hm : Moves serde world event next) : next.aborted = world.aborted := by
  cases hm <;> rfl

lemma Sound.arrive (hs : Sound serde world) :
    BTreeMap.Paired (Fits serde (world.requests ++ [msg])) world.service.pendingOps
      world.flights := by
  refine mono hs ?_
  rintro op flight ⟨asked, hr, he⟩
  exact ⟨asked, Docket.getElem_append hr, he⟩

lemma Moves.sound (hm : Moves serde world event next) (hs : Sound serde world) :
    Sound serde next := by
  cases hm with
  | @ignored _ msg _ | @rejected _ msg _ _ _ => exact hs.arrive
  | idle => exact hs
  | @admitted _ msg id call hk hb hfr =>
    refine (hs.arrive).insert id ⟨msg, by simp, hk, rfl, ?_⟩
    rintro _ ⟨⟩
  | @executed id owner call resultType data hf hl ha =>
    refine replace hs hf ?_
    rintro op ⟨msg, hr, hk, ho, _⟩
    refine ⟨msg, hr, hk, ho, ?_⟩
    rintro _ ⟨⟩
    exact hl
  | responded => exact erase hs _

lemma start_sound (contents : Contents) : Sound serde (start contents) := paired_empty

end

section

variable (serde : Serde) (origin : Contents) (history : List Executed)

-- The call has its place in the order of all calls, and the map was as seen there.
def TakesPlace (executed : Executed) (seen : Contents) : Prop :=
  ∃ before after, history = before ++ executed :: after ∧ seen = origin.replay before

def Answered (token : Nat) (msg : AppMessage) (effect : Effect) : Prop :=
  ∃ executed seen response, executed.owner = token ∧ Asks serde msg executed.call ∧
    TakesPlace origin history executed seen ∧
    Outcome seen executed.call executed.failed response ∧
    Addressed (.fromMessage msg) (responseTag msg.tag) response effect

-- What a request that starts no call is sent: an error, if it is rejected.
def TurnedAway (msg : AppMessage) (effects : List Effect) : Prop :=
  (Rejected serde msg ∧ ∃ response : Response, response.isOk = false ∧
      effects = [.DebugResponse msg.fromPid (responseTag msg.tag) response]) ∨
    ¬ Rejected serde msg ∧ effects = []

def Carried (flight : Flight) : Prop :=
  match flight.answer with
  | none => ∀ executed ∈ history, executed.owner ≠ flight.owner
  | some (resultType, data) => ∃ seen,
      TakesPlace origin history ⟨flight.owner, flight.call, resultType = ERROR⟩ seen ∧
        seen.Answers serde flight.call resultType data

end

def docket (world : World) : Docket UInt32 AppMessage Effect :=
  ⟨world.requests, world.admitted, ⟨BTreeMap.holder Flight.owner world.flights, world.responses⟩⟩

def responsesTo (world : World) (token : Nat) : List Effect :=
  world.docket.custody.receiptsOf token

structure Consistent (serde : Serde) (origin : Contents) (world : World) : Prop where
  room : world.service.pendingOps.size ≤ MAX_PENDING_OPS
  contents : world.contents = origin.replay world.history
  once : (world.history.map Executed.owner).Nodup
  placed : ∀ executed ∈ world.history, ∃ msg, world.requests[executed.owner]? = some msg ∧
    Asks serde msg executed.call
  carried : ∀ (id : UInt32) flight, world.flights[id]? = some flight →
    Carried serde origin world.history flight
  orderly : world.docket.Orderly (TurnedAway serde) (Answered serde origin world.history)

section

variable {serde : Serde} {world next : World} {origin : Contents}

lemma TakesPlace.later {history : List Executed} (hp : TakesPlace origin history executed seen) :
    TakesPlace origin (history ++ [last]) executed seen := by
  obtain ⟨before, after, rfl, hs⟩ := hp
  exact ⟨before, after ++ [last], by simp, hs⟩

lemma Answered.later {history : List Executed}
    (ha : Answered serde origin history token msg effect) (last : Executed) :
    Answered serde origin (history ++ [last]) token msg effect := by
  obtain ⟨executed, seen, resp, ho, hs, hp, hr⟩ := ha
  exact ⟨executed, seen, resp, ho, hs, hp.later, hr⟩

lemma Carried.later {history : List Executed} (hc : Carried serde origin history flight)
    (ho : last.owner ≠ flight.owner) : Carried serde origin (history ++ [last]) flight := by
  obtain ⟨_, _, _ | ⟨_, _⟩⟩ := flight
  · intro executed hm
    obtain hl | hn := mem_append.mp hm
    · exact hc _ hl
    · rw [mem_singleton.mp hn]
      exact ho
  · obtain ⟨seen, hp, ha⟩ := hc
    exact ⟨seen, hp.later, ha⟩

section

variable (hcons : Consistent serde origin world)

include hcons

variable {data : List UInt8} {id : UInt32} {resultType : UInt8}

lemma Consistent.owner_ne (hf : world.flights[id]? = some flight)
    (ha : world.flights[other]? = some another) (hn : id ≠ other) :
    flight.owner ≠ another.owner := by
  intro hs
  have ho : world.docket.custody.owner id = some flight.owner := holder_of_get hf
  have ht : world.docket.custody.owner other = some flight.owner :=
    (holder_of_get ha).trans (congrArg some hs.symm)
  obtain ⟨_, _, hst⟩ := hcons.orderly.standing _ (hcons.orderly.owners id _ ho)
  exact hn ((hst.of_owner ht).1 id ho)

lemma Consistent.turnAway (ha : TurnedAway serde msg effects) :
    Consistent serde origin
      { world with
        requests := world.requests ++ [msg]
        responses := world.responses ++ effects.map fun e => (world.requests.length, e) } := by
  refine ⟨hcons.room, hcons.contents, hcons.once, ?_, hcons.carried, hcons.orderly.turnAway ha⟩
  intro executed hm
  obtain ⟨asked, has, hs⟩ := hcons.placed executed hm
  exact ⟨asked, Docket.getElem_append has, hs⟩

lemma Consistent.accept (ho : world.service.pendingOps.size < MAX_PENDING_OPS)
    (hr : id ∉ world.flights) :
    Consistent serde origin
      { world with
        service := ⟨world.service.pendingOps.insert id op⟩
        flights := world.flights.insert id ⟨world.requests.length, call, none⟩
        requests := world.requests ++ [msg]
        admitted := world.admitted ++ [world.requests.length] } := by
  have he : ∀ executed ∈ world.history, executed.owner < world.requests.length := by
    intro executed hm
    obtain ⟨asked, has, _⟩ := hcons.placed executed hm
    exact (List.getElem?_eq_some_iff.mp has).1
  refine ⟨Nat.le_trans Std.ExtTreeMap.size_insert_le ho, hcons.contents, hcons.once, ?_, ?_, ?_⟩
  · intro executed hm
    obtain ⟨asked, has, hs⟩ := hcons.placed executed hm
    exact ⟨asked, Docket.getElem_append has, hs⟩
  · intro other flight hf
    rw [get_insert] at hf
    split_ifs at hf
    · cases hf
      exact fun executed hm => Nat.ne_of_lt (he _ hm)
    · exact hcons.carried _ _ hf
  · have ha := hcons.orderly.accept msg (holder_of_not_mem hr)
    rw [docket, holder_insert]
    exact ha

lemma Consistent.execute (hn : Sound serde world)
    (hf : world.flights[id]? = some ⟨owner, call, none⟩)
    (hb : world.contents.Answers serde call resultType data) :
    Consistent serde origin
      { world with
        contents := world.contents.execute ⟨owner, call, resultType = ERROR⟩
        flights := world.flights.insert id ⟨owner, call, some (resultType, data)⟩
        history := world.history ++ [⟨owner, call, resultType = ERROR⟩] } := by
  have hw : ∀ executed ∈ world.history, executed.owner ≠ owner := hcons.carried id _ hf
  obtain ⟨msg, hs⟩ := hn.serves hf
  refine ⟨hcons.room, ?_, ?_, ?_, ?_, ?_⟩
  · rw [Contents.replay, foldl_append, hcons.contents]
    rfl
  · rw [map_append]
    refine nodup_append.mpr ⟨hcons.once, by simp, ?_⟩
    intro other hm last hl
    obtain ⟨executed, hx, rfl⟩ := mem_map.mp hm
    rw [mem_singleton.mp hl]
    exact hw _ hx
  · intro executed hm
    obtain hd | hne := mem_append.mp hm
    · exact hcons.placed _ hd
    · rw [mem_singleton.mp hne]
      exact ⟨msg, hs.requested, hs.asks⟩
  · intro other flight ho
    rw [get_insert] at ho
    split_ifs at ho with he
    · cases ho
      exact ⟨world.contents, ⟨world.history, [], rfl, hcons.contents⟩, hb⟩
    · exact (hcons.carried _ _ ho).later (hcons.owner_ne hf ho he)
  · have hr := hcons.orderly.mono fun token msg effect ha =>
      Answered.later ha ⟨owner, call, resultType = ERROR⟩
    have hsa : holder Flight.owner
        (world.flights.insert id ⟨owner, call, some (resultType, data)⟩) =
          holder Flight.owner world.flights := holder_replace hf rfl
    rw [docket, hsa]
    exact hr

lemma Consistent.respond (hs : Serves serde world id ⟨owner, call, some (resultType, data)⟩ msg)
    (hr : resume serde (opFor (.fromMessage msg) call) resultType data =
      .Respond (.fromMessage msg) (responseTag msg.tag) resp)
    (ha : Addressed (.fromMessage msg) (responseTag msg.tag) resp effect) :
    Consistent serde origin
      { world with
        service := ⟨world.service.pendingOps.erase id⟩
        flights := world.flights.erase id
        responses := world.responses ++ [(owner, effect)] } := by
  obtain ⟨seen, hp, hw⟩ := hcons.carried id _ hs.issued
  have hn : Answered serde origin world.history owner msg effect :=
    ⟨⟨owner, call, resultType = _⟩, seen, resp, rfl, hs.asks, hp, resume_outcome hr hw, ha⟩
  refine ⟨Nat.le_trans Std.ExtTreeMap.size_erase_le hcons.room, hcons.contents,
    hcons.once, hcons.placed, ?_, ?_⟩
  · intro other flight hf
    rw [get_erase] at hf
    split_ifs at hf
    exact hcons.carried _ _ hf
  · have he := hcons.orderly.settle (holder_of_get hs.issued) hs.requested hn
    rw [docket, holder_erase]
    exact he

end

lemma Moves.consistent (hm : Moves serde world event next) (hs : Sound serde world)
    (hcons : Consistent serde origin world) : Consistent serde origin next := by
  cases hm with
  | ignored ht =>
    have ha := hcons.turnAway (.inr ⟨ht, rfl⟩)
    simpa using ha
  | rejected hr hb => exact hcons.turnAway (.inl ⟨hr, _, hb, rfl⟩)
  | admitted _ ho hf => exact hcons.accept ho hf
  | idle => exact hcons
  | executed hl _ hn => exact hcons.execute hs hl hn
  | responded hsr he hd => exact hcons.respond hsr he hd

lemma start_consistent (origin : Contents) : Consistent serde origin (start origin) := by
  refine ⟨by simp [start], rfl, nodup_nil, ?_, ?_, ?_⟩
  · simp [start]
  · simp [start]
  · exact Docket.orderly_empty

end

structure AtomicMap (serde : Serde) (origin : Contents) (world : World) : Prop where
  room : world.service.pendingOps.size ≤ MAX_PENDING_OPS
  contents : world.contents = origin.replay world.history
  once : (world.history.map Executed.owner).Nodup
  answered : ∀ token ∈ world.admitted, ∃ msg, world.requests[token]? = some msg ∧
    ((∃ (id : UInt32) (flight : Flight), world.flights[id]? = some flight ∧
        flight.owner = token ∧ world.responsesTo token = []) ∨
      ∃ effect, world.responsesTo token = [effect] ∧
        Answered serde origin world.history token msg effect)
  confined : (∀ (id : UInt32) (flight : Flight), world.flights[id]? = some flight →
      Confined flight.call) ∧ ∀ executed ∈ world.history, Confined executed.call
  rejected : ∀ token msg, world.requests[token]? = some msg → Rejected serde msg →
    token ∉ world.admitted ∧ ∃ response : Response, response.isOk = false ∧
      world.responsesTo token = [.DebugResponse msg.fromPid (responseTag msg.tag) response]
  nothingElse : ∀ response ∈ world.responses, ∃ msg,
    world.requests[response.1]? = some msg ∧ (response.1 ∈ world.admitted ∨ Rejected serde msg)

section

variable {serde : Serde} {world : World} {origin : Contents}

section

variable (hcons : Consistent serde origin world)

include hcons

lemma Consistent.standing (hm : token ∈ world.admitted) :
    ∃ msg, world.requests[token]? = some msg ∧
      ((∃ (id : UInt32) (flight : Flight), world.flights[id]? = some flight ∧
          flight.owner = token ∧ world.responsesTo token = []) ∨
        ∃ effect, world.responsesTo token = [effect] ∧
          Answered serde origin world.history token msg effect) := by
  obtain ⟨msg, hr, hs⟩ := hcons.orderly.standing token hm
  refine ⟨msg, hr, ?_⟩
  cases hs with
  | @held id ho _ hn =>
    obtain ⟨flight, hf, hsa⟩ := Option.map_eq_some_iff.mp ho
    exact .inl ⟨id, flight, hf, hsa, hn⟩
  | settled ha _ hon => exact .inr ⟨_, hon, ha⟩

lemma Consistent.asks (hn : Sound serde world) (hm : token ∈ world.admitted) :
    ∃ msg call, world.requests[token]? = some msg ∧ Asks serde msg call := by
  obtain ⟨msg, hr, ⟨_, flight, hf, rfl, _⟩ | ⟨_, _, ha⟩⟩ := hcons.standing hm
  · obtain ⟨asked, hs⟩ := hn.serves hf
    exact ⟨asked, flight.call, hs.requested, hs.asks⟩
  · obtain ⟨executed, _, _, _, hk, _⟩ := ha
    exact ⟨msg, executed.call, hr, hk⟩

lemma Consistent.atomicMap (hs : Sound serde world) : AtomicMap serde origin world where
  room := hcons.room
  contents := hcons.contents
  once := hcons.once
  answered token hm := hcons.standing hm
  confined := by
    refine ⟨fun id flight hf => ?_, fun executed hm => ?_⟩
    · obtain ⟨_, hsr⟩ := hs.serves hf
      exact hsr.asks.confined
    · obtain ⟨_, _, hk⟩ := hcons.placed executed hm
      exact hk.confined
  rejected token msg hr hj := by
    have ho : token ∉ world.admitted := by
      intro hm
      obtain ⟨_, _, has, hk⟩ := hcons.asks hs hm
      rw [hr] at has
      cases has
      exact hj.2 _ hk
    obtain ⟨_, hrs⟩ | ⟨ha, _⟩ := hcons.orderly.turned token msg hr ho
    · exact ⟨ho, hrs⟩
    · exact absurd hj ha
  nothingElse := by
    rintro ⟨token, _⟩ hm
    have hl : token < world.requests.length := hcons.orderly.named _ hm
    have hr := getElem?_eq_getElem hl
    refine ⟨_, hr, or_iff_not_imp_left.mpr fun ho => ?_⟩
    obtain ⟨hj, _⟩ | ⟨_, hn⟩ := hcons.orderly.turned token _ hr ho
    · exact hj
    · rw [Custody.receiptsOf, map_eq_nil_iff, filter_eq_nil_iff] at hn
      exact absurd (decide_eq_true rfl) (hn _ hm)

end

-- The service is an atomic map in every run in which no client passes off a message as the
-- result of a call that is waited for, or makes the service abort with one.
theorem run_atomicMap (serde : Serde) (origin : Contents) (events : List Event)
    (halong : Run.Along (step serde)
      (fun world event => Lawful serde world event ∧ Unforged world event)
      (start origin) events) :
    AtomicMap serde origin (Run.run (step serde) (start origin) events) := by
  have hr := Run.run_invariant (step serde)
    (fun world event => Lawful serde world event ∧ Unforged world event)
    (fun world => world.aborted = false ∧ Sound serde world ∧ Consistent serde origin world) ?_
    ⟨rfl, start_sound _, start_consistent ..⟩ halong
  · exact hr.2.2.atomicMap hr.2.1
  · rintro world event ⟨ha, hs, hcons⟩ ⟨hl, hu⟩
    have hm := step_moves ha hs hl hu
    exact ⟨hm.aborted.trans ha, hm.sound hs, hm.consistent hs hcons⟩

end

end World

-- A format for requests and responses, to run the service with.

def keyRequest : Json.Codec KeyRequest :=
  (Json.string.object "key").via KeyRequest.key KeyRequest.mk fun _ => rfl

def writeRequest : Json.Codec WriteRequest :=
  ((Json.string.field "value" Json.bytes).object "key").via (fun r => (r.key, r.value))
    (fun v => ⟨v.1, v.2⟩) fun _ => rfl

def listRequest : Json.Codec ListRequest :=
  (Json.string.object "prefix").via ListRequest.keyStart ListRequest.mk fun _ => rfl

def error : KeystoreError → List UInt8
  | .InvalidKey reason => (Json.string.object "InvalidKey").encode reason
  | .InvalidRequest reason => (Json.string.object "InvalidRequest").encode reason
  | .NotFound => Json.string.encode "NotFound"
  | .StorageError reason => (Json.string.object "StorageError").encode reason
  | .ResourceExhausted => Json.string.encode "ResourceExhausted"

def jsonSerde : Serde where
  readRequest := Json.fromSlice keyRequest
  writeRequest := Json.fromSlice writeRequest
  deleteRequest := Json.fromSlice keyRequest
  existsRequest := Json.fromSlice keyRequest
  listRequest := Json.fromSlice listRequest
  keysFromSlice := Json.fromSlice Json.strings
  responseToVec
    | .Read result => .ok (Json.result Json.bytes error result)
    | .Write result | .Delete result => .ok (Json.result Json.null error result)
    | .Exists result => .ok (Json.result Json.bool error result)
    | .List result => .ok (Json.result Json.strings error result)
  responseToVec_ok response := by cases response <;> exact ⟨_, rfl⟩

def nextId (id : Int64) : Syscalls := ⟨fun _ => .ok id, fun _ _ _ => .ok ()⟩

def writeMessage : AppMessage :=
  ⟨MSG_KEYSTORE_WRITE, 10, [], writeRequest.encode ⟨"/keys/a", [7]⟩⟩

namespace World

def served : List Event :=
  [.Receive (nextId 5) writeMessage, .Execute 5 WRITE_OK [], .Deliver (nextId 6) 5]

theorem run_atomicMap_served :
    AtomicMap jsonSerde ∅ (Run.run (step jsonSerde) (start ∅) served) ∧
      (Run.run (step jsonSerde) (start ∅) served).history =
        [⟨0, .Write "/keys/a" [7], false⟩] ∧
      (Run.run (step jsonSerde) (start ∅) served).responses =
        [(0, .DebugResponse 10 MSG_KEYSTORE_WRITE_RESPONSE (.Write (.ok ())))] := by
  refine ⟨run_atomicMap _ ∅ served ?_, by decide +kernel, by decide +kernel⟩
  refine ⟨⟨?_, ?_⟩, ⟨⟨by decide, ?_⟩, trivial⟩, ⟨trivial, trivial⟩, trivial⟩
  · intro call id _
    simp [start]
  · rintro ⟨ht, _⟩
    exact absurd ht (by decide)
  · intro owner call hf
    have hw : (step jsonSerde (start ∅) (.Receive (nextId 5) writeMessage)).flights[(5 : UInt32)]? =
      some ⟨0, .Write "/keys/a" [7], none⟩ := by decide +kernel
    cases hw.symm.trans hf
    exact .written _ _

-- A process sends a message in the form of a result, and the client is told of a success while
-- nothing has been written.

def forgedMessage : AppMessage :=
  ⟨MSG_KEYSTORE_RESULT, 11, [], StorageResult.payload ⟨5, WRITE_OK, []⟩⟩

def forgery : List Event :=
  [.Receive (nextId 5) writeMessage, .Receive (nextId 6) forgedMessage]

theorem forgery_not_atomicMap :
    Run.Along (step jsonSerde) (Lawful jsonSerde) (start ∅) forgery ∧
      (Run.run (step jsonSerde) (start ∅) forgery).history = [] ∧
      (Run.run (step jsonSerde) (start ∅) forgery).responses =
        [(1, .DebugResponse 10 MSG_KEYSTORE_WRITE_RESPONSE (.Write (.ok ())))] ∧
      ¬ AtomicMap jsonSerde ∅ (Run.run (step jsonSerde) (start ∅) forgery) := by
  have hr : (Run.run (step jsonSerde) (start ∅) forgery).responses =
      [(1, .DebugResponse 10 MSG_KEYSTORE_WRITE_RESPONSE (.Write (.ok ())))] := by
    decide +kernel
  refine ⟨⟨?_, ?_, trivial⟩, by decide +kernel, hr, fun ha => ?_⟩
  · intro call id _
    simp [start]
  · rintro call id ⟨⟩
    decide +kernel
  · obtain ⟨msg, hq, hm | hj⟩ := ha.nothingElse _
      (hr ▸ mem_singleton_self _)
    · exact absurd hm (by decide +kernel)
    · have hf : (Run.run (step jsonSerde) (start ∅) forgery).requests[1]? = some forgedMessage := by
        decide +kernel
      have hs := Option.some.inj (hq.symm.trans hf)
      exact absurd (hs ▸ hj.1) (by decide)

end World

end ZeroOS.Keystore
