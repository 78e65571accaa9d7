import ZeroOS.Init.Delivery
import ZeroOS.Lib.Docket
import ZeroOS.Lib.Run
import ZeroOS.Network.Service
import ZeroOS.Supervisor.Authority

/-!
The network service together with the supervisor that its texts go to.
-/

namespace ZeroOS.Network

open Vfs (AppMessage)

-- Requests are numbered in the order in which they arrive. The last five fields only record
-- what has happened.
structure World where
  pid : ProcessId
  service : NetworkService
  supervisor : SupervisorState
  flights : BTreeMap UInt32 Nat
  requests : List AppMessage
  admitted : List Nat
  outcomes : List (Nat × UInt8 × List UInt8)
  responses : List (Nat × String)
  routed : List (Nat × PendingDelivery)

inductive Event where
  | Request (sys : Syscalls) (msg : AppMessage)
  | Finish (id : UInt32) (resultType : UInt8) (data : List UInt8)

def Event.asked : Event → List AppMessage
  | .Request _ msg => [msg]
  | .Finish _ _ _ => []

def isResponse (text : String) : Bool := "NET:RESPONSE:".toList <+: text.toList

def netResponse (message : UInt32 × List UInt8) : Option PendingDelivery :=
  if message.1 = MSG_SUPERVISOR_IPC_DELIVERY then
    match parseDelivery message.2 with
    | .ok delivery => if delivery.tag = MSG_NET_RESPONSE then some delivery else none
    | .error _ => none
  else none

-- The message in which a result arrives, by way of Init.
def resultMessage (id : UInt32) (resultType : UInt8) (data : List UInt8) : AppMessage where
  tag := MSG_NET_RESULT
  fromPid := 1
  capSlots := []
  data := StorageResult.payload ⟨id, resultType, data⟩

namespace World

def start (pid : ProcessId) (supervisor : SupervisorState) : World :=
  ⟨pid, ⟨∅, 1⟩, supervisor, ∅, [], [], [], [], []⟩

variable (token : Nat) (lossy : List UInt8 → String) (world : World)

-- A debug text goes to the dispatcher. What Init is sent in consequence is looked through for
-- network responses.
def perform : Effect → World
  | .Fetch id _ =>
    { world with
      flights := world.flights.insert id token
      admitted := world.admitted ++ [token] }
  | .Debug text =>
    let supervisor := (world.supervisor.dispatchDebugMessage world.pid text).1
    let deliveries := (supervisor.sent.drop world.supervisor.sent.length).filterMap netResponse
    { world with
      supervisor
      responses := world.responses ++ if isResponse text then [(token, text)] else []
      routed := world.routed ++ deliveries.map fun delivery => (token, delivery) }

def performAll (handled : NetworkService × List Effect) : World :=
  handled.2.foldl (perform token) { world with service := handled.1 }

def request (sys : Syscalls) (msg : AppMessage) : World :=
  { world with requests := world.requests ++ [msg] }.performAll world.requests.length
    (world.service.onMessage lossy sys msg)

def finish (id : UInt32) (resultType : UInt8) (data : List UInt8) : World :=
  match world.flights[id]? with
  | none => world
  | some owner =>
    { world with
      flights := world.flights.erase id
      outcomes := world.outcomes ++ [(owner, resultType, data)] }.performAll owner
      (world.service.onMessage lossy ⟨fun _ => .error 0⟩ (resultMessage id resultType data))

def step : Event → World
  | .Request sys msg => world.request lossy sys msg
  | .Finish id resultType data => world.finish lossy id resultType data

-- Clients send requests. The platform gives out ids that are not in use, and its results fit
-- into their messages.
def Lawful : Event → Prop
  | .Request sys msg => msg.tag = MSG_NET_REQUEST ∧
      ∀ request id, sys.fetch request = .ok id → id.toUInt64.toUInt32 ∉ world.flights
  | .Finish _ _ data => data.length < 4294967296

end World

-- The body of the response to a request whose fetch has ended.
def bodyOf (lossy : List UInt8 → String) (resultType : UInt8) (data : List UInt8) : List UInt8 :=
  if resultType = NET_OK then data
  else utf8Bytes (errorJson (if data ≠ [] then lossy data else "Network error"))

lemma forward_eq :
    NetworkService.forward lossy pending kind data =
      .Debug (responseText pending.clientPid
        (responseData pending.clientRequestId (bodyOf lossy kind data))) := by
  unfold NetworkService.forward bodyOf
  split_ifs <;> rfl

lemma ofText_cons_N : DebugChannel.ofText ('N' :: rest) = .Console := by
  rfl

lemma dispatch_of_N {state : SupervisorState} (hm : msg.toList = 'N' :: rest) :
    (state.dispatchDebugMessage pid msg).1 = state.handleDebugConsoleOutput pid msg := by
  unfold SupervisorState.dispatchDebugMessage
  rw [hm, ofText_cons_N]

lemma netResponse_of_endsProcess (he : SupervisorState.EndsProcess message) :
    netResponse message = none := by
  obtain hk | ⟨target, rfl⟩ := he
  · rw [netResponse, if_neg (by rw [hk]; decide)]
  · have hp : parseDelivery (deliveryPayload target 0 PingPong.CMD_EXIT []) =
        .ok ⟨target.toUInt32, 0, PingPong.CMD_EXIT, []⟩ := by
      have ht := parseDelivery_take target 0 PingPong.CMD_EXIT [] (Nat.le_refl 14)
      exact ht
    simp only [netResponse, if_true, hp]
    exact if_neg (by decide)

def IsLog (text : String) : Prop := ∃ rest, text.toList = 'N' :: 'e' :: rest

lemma IsLog.append (hl : IsLog text) : IsLog (text ++ more) := by
  obtain ⟨rest, hr⟩ := hl
  exact ⟨rest ++ more.toList, by rw [String.toList_append, hr]; rfl⟩

lemma IsLog.not_isResponse (hl : IsLog text) : isResponse text = false := by
  obtain ⟨_, hr⟩ := hl
  rw [isResponse, hr]
  rfl

lemma toList_responseText :
    (responseText toPid data).toList = "NET:RESPONSE:".toList ++ ((toString toPid).toList ++
      ':' :: Text.hexWord MSG_NET_RESPONSE ++ ':' :: Text.hex data) :=
  String.toList_ofList.trans (by simp only [List.append_assoc])

lemma isResponse_responseText : isResponse (responseText toPid data) = true := by
  unfold isResponse
  simp only [toList_responseText, List.prefix_append, decide_true]

namespace World

variable {lossy : List UInt8 → String} {world : World}

lemma perform_debug {text : String} {rest : List Char} (ht : text.toList = 'N' :: rest)
    (token : Nat) :
    ∃ supervisor, perform token world (.Debug text) =
      { world with
        supervisor
        responses := world.responses ++ if isResponse text then [(token, text)] else [] } := by
  obtain ⟨_, hs, he⟩ :=
    @SupervisorState.handleDebugConsoleOutput_sent world.supervisor world.pid text
  refine ⟨(world.supervisor.dispatchDebugMessage world.pid text).1, ?_⟩
  have hn : (((world.supervisor.dispatchDebugMessage world.pid text).1.sent.drop
      world.supervisor.sent.length).filterMap netResponse) = [] := by
    rw [dispatch_of_N ht, hs, List.drop_left, List.filterMap_eq_nil_iff]
    exact fun message hm => netResponse_of_endsProcess (he _ hm)
  unfold perform
  dsimp only
  rw [hn, List.map_nil, List.append_nil]

lemma perform_log (hl : IsLog text) :
    ∃ supervisor, perform token world (.Debug text) = { world with supervisor } := by
  obtain ⟨rest, ht⟩ := hl
  obtain ⟨supervisor, h⟩ := @perform_debug world text _ ht token
  refine ⟨supervisor, h.trans ?_⟩
  rw [IsLog.not_isResponse ⟨rest, ht⟩]
  simp

lemma perform_response :
    ∃ supervisor, perform token world (.Debug (responseText toPid data)) =
      { world with
        supervisor
        responses := world.responses ++ [(token, responseText toPid data)] } := by
  obtain ⟨supervisor, h⟩ := @perform_debug world _ _ toList_responseText token
  refine ⟨supervisor, h.trans ?_⟩
  simp only [isResponse_responseText, if_true]

end World

end ZeroOS.Network
