import ZeroOS.Lib.Run
import ZeroOS.Services.Results

/-!
The keystore service together with the platform behind it and the messages that reach it.
-/

namespace ZeroOS.Keystore

open Vfs (AppMessage ClientContext AppError StorageCall)
open StorageResult

-- One key-value map, and what an operation does to it.

abbrev Contents := BTreeMap String (List UInt8)

namespace Contents

variable (contents : Contents)

def apply : StorageCall → Contents
  | .Write key value => contents.insert key value
  | .Delete key => contents.erase key
  | .Read _ | .List _ | .Exists _ => contents

def keysUnder (keyStart : String) : List String :=
  contents.keys.filter fun key => keyStart.toList <+: key.toList

-- The outcome of an operation on the map.
inductive Yields : StorageCall → Response → Prop where
  | found {key : String} {value : List UInt8} (hget : contents[key]? = some value) :
      Yields (.Read key) (.Read (.ok value))
  | missing {key : String} (hget : contents[key]? = none) :
      Yields (.Read key) (.Read (.error .NotFound))
  | written (key : String) (value : List UInt8) : Yields (.Write key value) (.Write (.ok ()))
  | deleted (key : String) : Yields (.Delete key) (.Delete (.ok ()))
  | tested (key : String) : Yields (.Exists key) (.Exists (.ok (decide (key ∈ contents))))
  | listed {keyStart : String} {keys : List String} (hkeys : keys.Perm (contents.keysUnder keyStart)) :
      Yields (.List keyStart) (.List (.ok keys))

-- The well-formed results of the platform for an operation on the map. An error means that
-- the operation was not carried out.
inductive Answers (serde : Serde) : StorageCall → UInt8 → List UInt8 → Prop where
  | read {key : String} {value : List UInt8} (hget : contents[key]? = some value) :
      Answers serde (.Read key) READ_OK value
  | readNothing {key : String} (hget : contents[key]? = none) :
      Answers serde (.Read key) NOT_FOUND []
  | written (key : String) (value : List UInt8) : Answers serde (.Write key value) WRITE_OK []
  | deleted (key : String) : Answers serde (.Delete key) WRITE_OK []
  | deletedNothing {key : String} (hget : contents[key]? = none) :
      Answers serde (.Delete key) NOT_FOUND []
  | tested (key : String) :
      Answers serde (.Exists key) EXISTS_OK [if key ∈ contents then 1 else 0]
  | testedNothing {key : String} (hget : contents[key]? = none) :
      Answers serde (.Exists key) NOT_FOUND []
  | listed {keyStart : String} {keys : List String} {data : List UInt8}
      (hdata : serde.keysFromSlice data = .ok keys)
      (hkeys : keys.Perm (contents.keysUnder keyStart)) :
      Answers serde (.List keyStart) LIST_OK data
  | listedNothing {keyStart : String} (hnone : contents.keysUnder keyStart = []) :
      Answers serde (.List keyStart) NOT_FOUND []
  | failed (call : StorageCall) (data : List UInt8) : Answers serde call ERROR data

end Contents

-- A call that was issued for a request, with its result once there is one.
structure Flight where
  owner : Nat
  call : StorageCall
  answer : Option (UInt8 × List UInt8)
deriving DecidableEq

-- A call that was carried out, or had failed, at its place in the order of all calls.
structure Executed where
  owner : Nat
  call : StorageCall
  failed : Bool
deriving DecidableEq

def Contents.execute (contents : Contents) (executed : Executed) : Contents :=
  if executed.failed then contents else contents.apply executed.call

def Contents.replay (contents : Contents) (history : List Executed) : Contents :=
  history.foldl execute contents

-- Requests are numbered in the order in which they arrive. The last four fields only record
-- what has happened. A service that has aborted handles nothing any more.
structure World where
  service : KeystoreService
  aborted : Bool
  contents : Contents
  flights : BTreeMap UInt32 Flight
  requests : List AppMessage
  admitted : List Nat
  responses : List (Nat × Effect)
  history : List Executed

inductive Event where
  | Receive (sys : Syscalls) (msg : AppMessage)
  | Execute (id : UInt32) (resultType : UInt8) (data : List UInt8)
  | Deliver (sys : Syscalls) (id : UInt32)

-- The message in which a result arrives, by way of Init.
def resultMessage (id : UInt32) (resultType : UInt8) (data : List UInt8) : AppMessage where
  tag := MSG_KEYSTORE_RESULT
  fromPid := 1
  capSlots := []
  data := StorageResult.payload ⟨id, resultType, data⟩

namespace World

def start (contents : Contents) : World := ⟨⟨∅⟩, false, contents, ∅, [], [], [], []⟩

def record (token : Nat) (world : World) : Effect → World
  | .Issue id call => { world with flights := world.flights.insert id ⟨token, call, none⟩ }
  | .Reply slot tag response =>
    { world with responses := world.responses ++ [(token, .Reply slot tag response)] }
  | .DebugResponse toPid tag response =>
    { world with responses := world.responses ++ [(token, .DebugResponse toPid tag response)] }

def carryOut (world : World) (token : Nat) (handled : KeystoreService.Handled) : World :=
  handled.effects.foldl (record token) { world with service := handled.service }

def issues : Effect → Bool
  | .Issue _ _ => true
  | _ => false

-- What the service makes of a message, as the browser build runs it.
def handle (serde : Serde) (world : World) (sys : Syscalls) (msg : AppMessage) :
    Option KeystoreService.Handled :=
  if world.aborted then none
  else (Browser.KeystoreService.onMessage serde sys world.service msg).toOption

def receive (serde : Serde) (world : World) (sys : Syscalls) (msg : AppMessage) : World :=
  let token := world.requests.length
  let arrived := { world with requests := world.requests ++ [msg] }
  match world.handle serde sys msg with
  | none => { arrived with aborted := true }
  | some handled =>
    { arrived with
      admitted := if handled.effects.any issues then world.admitted ++ [token]
        else world.admitted }.carryOut token handled

def execute (world : World) (id : UInt32) (resultType : UInt8) (data : List UInt8) : World :=
  match world.flights[id]? with
  | some ⟨owner, call, none⟩ =>
    let executed : Executed := ⟨owner, call, resultType = ERROR⟩
    { world with
      contents := world.contents.execute executed
      flights := world.flights.insert id ⟨owner, call, some (resultType, data)⟩
      history := world.history ++ [executed] }
  | _ => world

variable (serde : Serde) (world : World)

def deliver (sys : Syscalls) (id : UInt32) : World :=
  match world.flights[id]? with
  | some ⟨owner, _, some (resultType, data)⟩ =>
    let answered := { world with flights := world.flights.erase id }
    match world.handle serde sys (resultMessage id resultType data) with
    | none => { answered with aborted := true }
    | some handled => answered.carryOut owner handled
  | _ => world

def step : Event → World
  | .Receive sys msg => world.receive serde sys msg
  | .Execute id resultType data => world.execute id resultType data
  | .Deliver sys id => world.deliver serde sys id

-- A message that passes for a result, for a call that is waited for or with a length at which the
-- service aborts.
def Forges (msg : AppMessage) : Prop :=
  msg.tag = MSG_KEYSTORE_RESULT ∧ 9 ≤ msg.data.length ∧
    (leWord32 msg.data ∈ world.service.pendingOps ∨ Browser.ResultWraps msg.data)

-- The platform gives out ids that are not in use, and its results are well-formed: a message has
-- less than 2^32 bytes.
def Lawful : Event → Prop
  | .Receive sys _ => ∀ call id, sys.keystore call = .ok id →
      id.toUInt64.toUInt32 ∉ world.flights
  | .Execute id resultType data => 9 + data.length < 4294967296 ∧
      ∀ owner call, world.flights[id]? = some ⟨owner, call, none⟩ →
        world.contents.Answers serde call resultType data
  | .Deliver _ _ => True

def Unforged : Event → Prop
  | .Receive _ msg => ¬ Forges world msg
  | .Execute _ _ _ => True
  | .Deliver _ _ => True

end World

end ZeroOS.Keystore
