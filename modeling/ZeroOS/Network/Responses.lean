import ZeroOS.Network.World

/-!
Requests to the network service and what becomes of them.
-/

namespace ZeroOS.Network

open List NetworkService IsLog SupervisorState BTreeMap BTreeMap.Paired Std.ExtTreeMap Run
open Vfs (AppMessage)

-- A request is refused with one response text, or it starts a fetch and is waited for.
inductive Handles (sys : Syscalls) (service : NetworkService) (msg : AppMessage) :
    NetworkService × List Effect → Prop where
  | refused {first second third error : String} (hfirst : IsLog first) (hsecond : IsLog second)
      (hthird : IsLog third) :
      Handles sys service msg
        ({ service with nextRequestId := service.nextRequestId + 1 },
          [.Debug first, .Debug second, .Debug third,
            sendErrorResponse msg.fromPid service.nextRequestId error])
  | fetching {first second third : String} {id : Int64} (hfirst : IsLog first)
      (hsecond : IsLog second) (hthird : IsLog third) (hfetch : sys.fetch msg.data = .ok id)
      (hroom : service.pendingOps.size < MAX_PENDING_OPS) :
      Handles sys service msg
        (⟨service.pendingOps.insert id.toUInt64.toUInt32 ⟨msg.fromPid, service.nextRequestId⟩,
            service.nextRequestId + 1⟩,
          [.Debug first, .Debug second, .Fetch id.toUInt64.toUInt32 msg.data, .Debug third])

lemma onMessage_handles (lossy : List UInt8 → String) (sys : Syscalls) (service : NetworkService)
    (ht : msg.tag = MSG_NET_REQUEST) :
    Handles sys service msg (service.onMessage lossy sys msg) := by
  simp only [onMessage, if_pos ht, handleNetRequest]
  by_cases hp : checkNetworkPermission msg.fromPid = true
  swap
  · rw [if_pos hp]
    exact .refused (((append ⟨_, rfl⟩).append).append)
      (((append ⟨_, rfl⟩).append).append) ((append ⟨_, rfl⟩).append)
  rw [if_neg (not_not_intro hp)]
  by_cases hr : checkPendingLimit { service with nextRequestId := service.nextRequestId + 1 } = true
  swap
  · rw [if_pos hr]
    exact .refused (((append ⟨_, rfl⟩).append).append) (((append ⟨_, rfl⟩).append).append)
      ((((append ⟨_, rfl⟩).append).append).append)
  rw [if_neg (not_not_intro hr)]
  cases hf : sys.fetch msg.data with
  | error =>
    exact .refused (((append ⟨_, rfl⟩).append).append)
      (((append ⟨_, rfl⟩).append).append) (append ⟨_, rfl⟩)
  | ok =>
    refine .fetching (((append ⟨_, rfl⟩).append).append)
      (((append ⟨_, rfl⟩).append).append) (append ⟨_, rfl⟩) hf ?_
    simpa [checkPendingLimit] using hr

inductive Forwards (lossy : List UInt8 → String) (service : NetworkService)
    (result : StorageResult) (pending : PendingRequest) : NetworkService × List Effect → Prop where
  | responds {first second : String} (hfirst : IsLog first) (hsecond : IsLog second) :
      Forwards lossy service result pending
        ({ service with pendingOps := service.pendingOps.erase result.requestId },
          [.Debug first, .Debug second, .Debug (responseText pending.clientPid (responseData
            pending.clientRequestId (bodyOf lossy result.resultType result.data)))])

lemma onMessage_forwards (lossy : List UInt8 → String) (sys : Syscalls)
    {service : NetworkService} {result : StorageResult} {pending : PendingRequest}
    (hp : service.pendingOps[result.requestId]? = some pending)
    (hl : result.data.length < 4294967296) :
    Forwards lossy service result pending (service.onMessage lossy sys
      (resultMessage result.requestId result.resultType result.data)) := by
  have ha := StorageResult.parse_payload result hl
  simp only [onMessage, resultMessage, handleNetResult, ha, fetchCompleted, hp, forward_eq]
  exact .responds (((append ⟨_, rfl⟩).append).append)
    (((((append ⟨_, rfl⟩).append).append).append).append)

namespace World

inductive Moves (lossy : List UInt8 → String) (world : World) : Event → World → Prop where
  | refused {sys : Syscalls} {msg : AppMessage} (supervisor : SupervisorState) (error : String) :
      Moves lossy world (.Request sys msg)
        { world with
          service := { world.service with nextRequestId := world.service.nextRequestId + 1 }
          supervisor
          requests := world.requests ++ [msg]
          responses := world.responses ++ [(world.requests.length, responseText msg.fromPid
            (responseData world.service.nextRequestId (utf8Bytes (errorJson error))))] }
  | admitted {sys : Syscalls} {msg : AppMessage} {id : UInt32} (supervisor : SupervisorState)
      (hroom : world.service.pendingOps.size < MAX_PENDING_OPS) (hfresh : id ∉ world.flights) :
      Moves lossy world (.Request sys msg)
        { world with
          service := ⟨world.service.pendingOps.insert id ⟨msg.fromPid, world.service.nextRequestId⟩,
            world.service.nextRequestId + 1⟩
          supervisor
          flights := world.flights.insert id world.requests.length
          requests := world.requests ++ [msg]
          admitted := world.admitted ++ [world.requests.length] }
  | idle {id : UInt32} {resultType : UInt8} {data : List UInt8} :
      Moves lossy world (.Finish id resultType data) world
  | finished {id : UInt32} {resultType : UInt8} {data : List UInt8} {owner : Nat}
      {pending : PendingRequest} (supervisor : SupervisorState)
      (hflight : world.flights[id]? = some owner)
      (hpending : world.service.pendingOps[id]? = some pending) :
      Moves lossy world (.Finish id resultType data)
        { world with
          service := { world.service with pendingOps := world.service.pendingOps.erase id }
          supervisor
          flights := world.flights.erase id
          outcomes := world.outcomes ++ [(owner, resultType, data)]
          responses := world.responses ++ [(owner, responseText pending.clientPid
            (responseData pending.clientRequestId (bodyOf lossy resultType data)))] }

-- The request that waits for a fetch is the one that it was started for.
def Fits (requests : List AppMessage) (pending : PendingRequest) (owner : Nat) : Prop :=
  ∃ msg, requests[owner]? = some msg ∧ pending.clientPid = msg.fromPid

def Sound (world : World) : Prop :=
  BTreeMap.Paired (Fits world.requests) world.service.pendingOps world.flights

section

variable {lossy : List UInt8 → String} {world next : World}

lemma request_moves (hl : Lawful world (.Request sys msg)) :
    Moves lossy world (.Request sys msg) (world.request lossy sys msg) := by
  have hh := onMessage_handles lossy sys world.service hl.1
  unfold request performAll
  generalize world.service.onMessage lossy sys msg = handled at hh
  cases hh with
  | refused hf hs ht =>
    dsimp only [foldl_cons]
    obtain ⟨s1, h1⟩ := perform_log hf
    rw [h1]
    obtain ⟨s2, h2⟩ := perform_log hs
    rw [h2]
    obtain ⟨s3, h3⟩ := perform_log ht
    rw [h3]
    obtain ⟨s4, h4⟩ := perform_response
    rw [sendErrorResponse, h4]
    exact .refused s4 _
  | fetching hf hs ht he hr =>
    dsimp only [foldl_cons]
    obtain ⟨s1, h1⟩ := perform_log hf
    rw [h1]
    obtain ⟨s2, h2⟩ := perform_log hs
    rw [h2]
    obtain ⟨s3, h3⟩ := perform_log ht
    rw [h3]
    exact .admitted s3 hr (hl.2 _ _ he)

lemma finish_moves (hs : Sound world) {id : UInt32}
    (hl : Lawful world (.Finish id resultType data)) :
    Moves lossy world (.Finish id resultType data) (world.finish lossy id resultType data) := by
  unfold finish
  cases hf : world.flights[id]? with
  | none => exact .idle
  | some =>
    obtain ⟨pending, hp, _⟩ := left hs hf
    have ho := @onMessage_forwards lossy ⟨fun _ => .error 0⟩ world.service
      ⟨id, resultType, data⟩ pending hp hl
    simp only [performAll]
    generalize world.service.onMessage lossy ⟨fun _ => .error 0⟩
      (resultMessage id resultType data) = handled at ho
    cases ho with
    | responds hfs he =>
      dsimp only [foldl_cons]
      obtain ⟨_, h1⟩ := perform_log hfs
      rw [h1]
      obtain ⟨_, h2⟩ := perform_log he
      rw [h2]
      obtain ⟨s3, h3⟩ := perform_response
      rw [h3]
      exact .finished s3 hf hp

lemma step_moves (hs : Sound world) {event : Event} (hl : Lawful world event) :
    Moves lossy world event (world.step lossy event) := by
  cases event with
  | Request => exact request_moves hl
  | Finish => exact finish_moves hs hl

lemma Sound.arrive (hs : Sound world) :
    BTreeMap.Paired (Fits (world.requests ++ [msg])) world.service.pendingOps world.flights := by
  refine mono hs ?_
  rintro pending owner ⟨asked, hr, hp⟩
  exact ⟨asked, Docket.getElem_append hr, hp⟩

lemma Moves.sound (hm : Moves lossy world event next) (hs : Sound world) : Sound next := by
  cases hm with
  | @refused _ msg _ _ => exact hs.arrive
  | @admitted _ msg id _ _ _ => exact (hs.arrive).insert id ⟨msg, by simp, rfl⟩
  | idle => exact hs
  | finished => exact erase hs _

end

-- What a request that starts no fetch is answered with.
def TurnedAway (msg : AppMessage) (texts : List String) : Prop :=
  ∃ requestId error,
    texts = [responseText msg.fromPid (responseData requestId (utf8Bytes (errorJson error)))]

def Carries (lossy : List UInt8 → String) (outcomes : List (Nat × UInt8 × List UInt8))
    (token : Nat) (msg : AppMessage) (text : String) : Prop :=
  ∃ requestId resultType data, (token, resultType, data) ∈ outcomes ∧
    text = responseText msg.fromPid (responseData requestId (bodyOf lossy resultType data))

def docket (world : World) : Docket UInt32 AppMessage String :=
  ⟨world.requests, world.admitted, ⟨BTreeMap.holder id world.flights, world.responses⟩⟩

structure Consistent (lossy : List UInt8 → String) (world : World) : Prop where
  sound : Sound world
  room : world.service.pendingOps.size ≤ MAX_PENDING_OPS
  orderly : world.docket.Orderly TurnedAway (Carries lossy world.outcomes)
  silent : world.routed = []

section

variable {lossy : List UInt8 → String} {world next : World}

lemma Moves.consistent (hm : Moves lossy world event next)
    (hc : Consistent lossy world) : Consistent lossy next := by
  have hs := hm.sound hc.sound
  cases hm with
  | refused _ error =>
    exact ⟨hs, hc.room, hc.orderly.turnAway ⟨_, error, rfl⟩, hc.silent⟩
  | @admitted _ msg id supervisor ho hr =>
    refine ⟨hs, Nat.le_trans size_insert_le ho, ?_, hc.silent⟩
    have ha := hc.orderly.accept msg (holder_of_not_mem hr)
    rw [docket, holder_insert]
    exact ha
  | idle => exact hc
  | @finished place resultType data owner pending supervisor hf hp =>
    refine ⟨hs, Nat.le_trans size_erase_le hc.room, ?_, hc.silent⟩
    obtain ⟨_, hw, msg, he, hi⟩ := left hc.sound hf
    rw [hp] at hw
    cases hw
    have hl : world.docket.Orderly TurnedAway
        (Carries lossy (world.outcomes ++ [(owner, resultType, data)])) := by
      refine hc.orderly.mono ?_
      rintro token asked text ⟨requestId, kind, bytes, hme, ht⟩
      exact ⟨requestId, kind, bytes, mem_append_left _ hme, ht⟩
    have hse := hl.settle (holder_of_get hf) he
      ⟨pending.clientRequestId, resultType, data, by simp, rfl⟩
    rw [docket, holder_erase, hi]
    exact hse

lemma start_consistent (pid : ProcessId) (supervisor : SupervisorState) :
    Consistent lossy (start pid supervisor) := by
  refine ⟨paired_empty, by simp [start], ?_, rfl⟩
  exact Docket.orderly_empty

lemma run_consistent {pid : ProcessId} {supervisor : SupervisorState}
    (ha : Run.Along (step lossy) Lawful (start pid supervisor) events) :
    Consistent lossy (run (step lossy) (start pid supervisor) events) :=
  run_invariant (step lossy) Lawful (Consistent lossy)
    (fun _ _ hc hl => (step_moves hc.sound hl).consistent hc)
    (start_consistent ..) ha

end

-- The fetch of the request has not ended.
def Waiting (world : World) (token : Nat) : Prop :=
  ∃ id : UInt32, world.flights[id]? = some token

def textsTo (world : World) (token : Nat) : List String :=
  world.docket.custody.receiptsOf token

def routedTo (world : World) (token : Nat) : List PendingDelivery :=
  (world.routed.filter (·.1 = token)).map Prod.snd

-- Every request that is not waiting has one response, which was routed to its sender. The
-- response to an accepted request carries the data of its own fetch.
def Answered (lossy : List UInt8 → String) (world : World) : Prop :=
  ∀ token msg, world.requests[token]? = some msg → Waiting world token ∨
    ∃ delivery, world.routedTo token = [delivery] ∧ delivery.targetPid = msg.fromPid ∧
      (token ∈ world.admitted → ∃ requestId resultType data,
        (token, resultType, data) ∈ world.outcomes ∧
          delivery.data = responseData requestId (bodyOf lossy resultType data))

section

variable {lossy : List UInt8 → String} {world next : World}

-- A request has no response until its fetch has ended, and then one, with what its own fetch
-- brought if it was accepted.
theorem run_responses {pid : ProcessId} {supervisor : SupervisorState}
    (halong : Run.Along (step lossy) Lawful (start pid supervisor) events) :
    let world := Run.run (step lossy) (start pid supervisor) events
    ∀ token msg, world.requests[token]? = some msg →
      (Waiting world token ∧ world.textsTo token = []) ∨
        (¬ Waiting world token ∧ ∃ requestId body,
          world.textsTo token = [responseText msg.fromPid (responseData requestId body)] ∧
          (token ∈ world.admitted → ∃ resultType data,
            (token, resultType, data) ∈ world.outcomes ∧ body = bodyOf lossy resultType data)) := by
  intro world token msg hr
  have hc := run_consistent halong
  have hw : Waiting world token → ∃ id, world.docket.custody.owner id = some token :=
    fun ⟨id, hf⟩ => ⟨id, holder_of_get hf⟩
  by_cases hm : token ∈ world.admitted
  · obtain ⟨asked, has, hs⟩ := hc.orderly.standing token hm
    have ha : asked = msg := Option.some.inj (has.symm.trans hr)
    subst ha
    cases hs with
    | @held id ho _ hn =>
      obtain ⟨_, hf, rfl⟩ := Option.map_eq_some_iff.mp ho
      exact .inl ⟨⟨id, hf⟩, hn⟩
    | settled hca hfr hon =>
      obtain ⟨requestId, resultType, data, hu, rfl⟩ := hca
      refine .inr ⟨fun hq => ?_, requestId, _, hon, fun _ => ⟨resultType, data, hu, rfl⟩⟩
      obtain ⟨id, ho⟩ := hw hq
      exact hfr id ho
  · obtain ⟨requestId, _, ht⟩ := hc.orderly.turned token msg hr hm
    refine .inr ⟨fun hq => ?_, requestId, _, ht, fun h => absurd h hm⟩
    obtain ⟨id, ho⟩ := hw hq
    exact hm (hc.orderly.owners id token ho)

lemma Moves.requests (hm : Moves lossy world event next) :
    next.requests = world.requests ++ Event.asked event := by
  cases hm with
  | refused _ _ | admitted _ _ _ => rfl
  | idle | finished _ _ _ => exact (append_nil _).symm

lemma run_requests (hc : Consistent lossy world) (ha : Run.Along (step lossy) Lawful world events) :
    (run (step lossy) world events).requests = world.requests ++ events.flatMap Event.asked := by
  induction events generalizing world with
  | nil => simp
  | cons event _ ih =>
    have hm := @step_moves lossy world hc.sound event ha.1
    rw [run_cons, ih (hm.consistent hc) ha.2, hm.requests, flatMap_cons, append_assoc]

-- When every fetch has ended, all requests have been answered exactly if there were none.
theorem run_answered_iff (lossy : List UInt8 → String) (pid : ProcessId)
    (supervisor : SupervisorState) (events : List Event)
    (halong : Run.Along (step lossy) Lawful (start pid supervisor) events)
    (hended : ∀ id : UInt32, id ∉ (Run.run (step lossy) (start pid supervisor) events).flights) :
    Answered lossy (Run.run (step lossy) (start pid supervisor) events) ↔
      ∀ sys msg, Event.Request sys msg ∉ events := by
  have hc := run_consistent halong
  have hr := run_requests (start_consistent pid supervisor) halong
  rw [show (start pid supervisor).requests = [] from rfl, nil_append] at hr
  constructor
  · intro ha sys msg hm
    have has : msg ∈ (run (step lossy) (start pid supervisor) events).requests := by
      rw [hr, mem_flatMap]
      exact ⟨_, hm, mem_singleton_self msg⟩
    obtain ⟨token, hl, hg⟩ := getElem_of_mem has
    obtain ⟨id, hf⟩ | ⟨_, ho, _⟩ := ha token msg (List.getElem?_eq_some_iff.mpr ⟨hl, hg⟩)
    · exact hended id ((mem_iff _).mpr ⟨token, hf⟩)
    · rw [routedTo, hc.silent] at ho
      cases ho
  · intro hn token msg hq
    have he : events.flatMap Event.asked = [] := by
      rw [flatMap_eq_nil_iff]
      rintro (⟨sys, msg⟩ | _) hm
      · exact absurd hm (hn sys msg)
      · rfl
    rw [hr, he] at hq
    cases hq

end

-- Init makes a request, the fetch ends well, and the response goes to the console.

def fetched : List Event :=
  [.Request ⟨fun _ => .ok 5⟩ ⟨MSG_NET_REQUEST, 1, [], []⟩, .Finish 5 NET_OK [7]]

def readAscii (bytes : List UInt8) : String :=
  String.ofList (bytes.map fun byte => Char.ofNat byte.toNat)

lemma fetched_lawful :
    Run.Along (step readAscii) Lawful (start 6 booted) fetched ∧
      ∀ id : UInt32, id ∉ (run (step readAscii) (start 6 booted) fetched).flights := by
  have he : (run (step readAscii) (start 6 booted) fetched).flights = ∅ := by
    decide +kernel
  refine ⟨⟨⟨rfl, fun request id _ => by simp [start]⟩, ?_, trivial⟩, fun id => ?_⟩
  · show [7].length < 4294967296
    decide
  · rw [he]
    exact not_mem_empty

theorem run_responses_fetched :
    ((Run.run (step readAscii) (start 6 SupervisorState.booted) fetched).textsTo 0).length = 1 := by
  obtain ⟨⟨id, hf⟩, _⟩ | ⟨_, _, _, ht, _⟩ := run_responses fetched_lawful.1 0
    ⟨MSG_NET_REQUEST, 1, [], []⟩ (by decide +kernel)
  · exact absurd ((mem_iff _).mpr ⟨0, hf⟩) (fetched_lawful.2 id)
  · rw [ht, length_singleton]

theorem run_answered_iff_fetched :
    Answered readAscii (Run.run (step readAscii) (start 6 SupervisorState.booted) fetched) ↔
      ∀ sys msg, Event.Request sys msg ∉ fetched :=
  run_answered_iff readAscii 6 booted fetched fetched_lawful.1 fetched_lawful.2

theorem fetched_not_answered :
    (Run.run (step readAscii) (start 6 SupervisorState.booted) fetched).responses =
        [(0, "NET:RESPONSE:1:00009001:0100000007")] ∧
      (Run.run (step readAscii) (start 6 SupervisorState.booted) fetched).routed = [] ∧
      ¬ Answered readAscii
        (Run.run (step readAscii) (start 6 SupervisorState.booted) fetched) := by
  have hr : (run (step readAscii) (start 6 booted) fetched).routed = [] := by
    decide +kernel
  refine ⟨by decide +kernel, hr, fun ha => ?_⟩
  obtain ⟨id, hf⟩ | ⟨_, ho, _⟩ := ha 0 ⟨MSG_NET_REQUEST, 1, [], []⟩ (by decide +kernel)
  · exact fetched_lawful.2 id ((mem_iff _).mpr ⟨0, hf⟩)
  · rw [routedTo, hr] at ho
    cases ho

end World

end ZeroOS.Network
