import ZeroOS.Keystore.World

/-!
What a request asks for, and how the service deals with it.
-/

namespace ZeroOS.Keystore

open Vfs (AppMessage ClientContext AppError StorageCall)
open StorageResult

def ValidKey (key : String) : Prop := "/keys/".toList <+: key.toList ∧ '\x00' ∉ key.toList

inductive Asks (serde : Serde) (msg : AppMessage) : StorageCall → Prop where
  | read {request : KeyRequest} (htag : msg.tag = MSG_KEYSTORE_READ)
      (hparse : serde.readRequest msg.data = .ok request) (hkey : ValidKey request.key) :
      Asks serde msg (.Read request.key)
  | write {request : WriteRequest} (htag : msg.tag = MSG_KEYSTORE_WRITE)
      (hparse : serde.writeRequest msg.data = .ok request) (hkey : ValidKey request.key)
      (hsize : request.value.length ≤ MAX_CONTENT_SIZE) :
      Asks serde msg (.Write request.key request.value)
  | delete {request : KeyRequest} (htag : msg.tag = MSG_KEYSTORE_DELETE)
      (hparse : serde.deleteRequest msg.data = .ok request) (hkey : ValidKey request.key) :
      Asks serde msg (.Delete request.key)
  | test {request : KeyRequest} (htag : msg.tag = MSG_KEYSTORE_EXISTS)
      (hparse : serde.existsRequest msg.data = .ok request) (hkey : ValidKey request.key) :
      Asks serde msg (.Exists request.key)
  | list {request : ListRequest} (htag : msg.tag = MSG_KEYSTORE_LIST)
      (hparse : serde.listRequest msg.data = .ok request)
      (hstart : "/keys/".toList <+: request.keyStart.toList ∨ request.keyStart = "/keys") :
      Asks serde msg (.List request.keyStart)

def responseTag (tag : UInt32) : UInt32 :=
  if tag = MSG_KEYSTORE_READ then MSG_KEYSTORE_READ_RESPONSE
  else if tag = MSG_KEYSTORE_WRITE then MSG_KEYSTORE_WRITE_RESPONSE
  else if tag = MSG_KEYSTORE_DELETE then MSG_KEYSTORE_DELETE_RESPONSE
  else if tag = MSG_KEYSTORE_EXISTS then MSG_KEYSTORE_EXISTS_RESPONSE
  else if tag = MSG_KEYSTORE_LIST then MSG_KEYSTORE_LIST_RESPONSE
  else 0

def requestTags : List UInt32 :=
  [MSG_KEYSTORE_READ, MSG_KEYSTORE_WRITE, MSG_KEYSTORE_DELETE, MSG_KEYSTORE_EXISTS,
    MSG_KEYSTORE_LIST]

-- A request that parsing or validation does not let through.
def Rejected (serde : Serde) (msg : AppMessage) : Prop :=
  msg.tag ∈ requestTags ∧ ∀ call, ¬ Asks serde msg call

-- Every call names a key that the service may use, or a directory to list.
def Confined : StorageCall → Prop
  | .Read key | .Write key _ | .Delete key | .Exists key => "/keys/".toList <+: key.toList
  | .List _ => True

-- The operation that waits for a call.
def opFor (ctx : ClientContext) : StorageCall → PendingOp
  | .Read key => .Read ctx key
  | .Write key _ => .Write ctx key
  | .Delete key => .Delete ctx key
  | .Exists key => .Exists ctx key
  | .List keyStart => .List ctx keyStart

-- A response goes to the first reply capability of its requester, or by the debug channel to
-- the process.
def Addressed (ctx : ClientContext) (tag : UInt32) (response : Response) (effect : Effect) : Prop :=
  (∃ slot, ctx.replyCaps.head? = some slot ∧ effect = .Reply slot tag response) ∨
    effect = .DebugResponse ctx.pid tag response

inductive Begins (serde : Serde) (msg : AppMessage) : Action → Prop where
  | unknown (htag : msg.tag ∉ requestTags) : Begins serde msg .Done
  | rejected {response : Response} (hrejected : Rejected serde msg)
      (herror : response.isOk = false) :
      Begins serde msg (.RespondViaDebug msg.fromPid (responseTag msg.tag) response)
  | starts {call : StorageCall} (hasks : Asks serde msg call) :
      Begins serde msg (.Start call (opFor (.fromMessage msg) call))

section

variable {serde : Serde} {msg : AppMessage}

lemma validateKey_cases (key : String) :
    (validateKey key = .ok () ∧ ValidKey key) ∨
      ∃ error, validateKey key = .error error ∧ ¬ ValidKey key := by
  unfold validateKey ValidKey
  by_cases he : key.toList = []
  · refine .inr ⟨_, if_pos he, fun hv => ?_⟩
    rw [he] at hv
    exact absurd hv.1 (by decide)
  by_cases hs : "/keys/".toList <+: key.toList
  swap
  · exact .inr ⟨_, (if_neg he).trans (if_pos hs), fun hv => hs hv.1⟩
  by_cases hn : '\x00' ∈ key.toList
  · exact .inr ⟨_, ((if_neg he).trans (if_neg (not_not_intro hs))).trans (if_pos hn),
      fun hv => hv.2 hn⟩
  · refine .inl ⟨?_, hs, hn⟩
    rw [if_neg he, if_neg (not_not_intro hs), if_neg hn]

lemma handleKeyed_begins {failure : KeystoreError → Response} (ht : tag = responseTag msg.tag)
    (hr : msg.tag ∈ requestTags) (hop : ∀ ctx key, op ctx key = opFor ctx (call key))
    (hf : ∀ error, (failure error).isOk = false) (ha : ∀ found, Asks serde msg found ↔
      ∃ req, parse msg.data = .ok req ∧ ValidKey req.key ∧ found = call req.key) :
    Begins serde msg (handleKeyed parse tag failure call op msg) := by
  subst ht
  unfold handleKeyed
  cases hp : parse msg.data with
  | error =>
    refine .rejected ⟨hr, fun found hg => ?_⟩ (hf _)
    obtain ⟨req, ho, -⟩ := (ha found).mp hg
    rw [hp] at ho
    cases ho
  | ok req =>
    dsimp only
    rcases validateKey_cases req.key with ⟨hv, hl⟩ | ⟨error, hv, hi⟩
    · rw [hv]
      rw [hop]
      exact .starts ((ha _).mpr ⟨req, hp, hl, rfl⟩)
    · rw [hv]
      refine .rejected ⟨hr, fun found hg => ?_⟩ (hf _)
      obtain ⟨_, ho, hl, -⟩ := (ha found).mp hg
      rw [hp] at ho
      cases ho
      exact hi hl

lemma handleRead_begins (ht : msg.tag = MSG_KEYSTORE_READ) :
    Begins serde msg (handleRead serde msg) := by
  refine handleKeyed_begins (by rw [ht]; rfl) (by rw [ht]; decide) (fun _ _ => rfl)
    (fun _ => rfl) fun found => ⟨?_, ?_⟩
  · intro ha
    cases ha with
    | read _ hp hk => exact ⟨_, hp, hk, rfl⟩
    | write h | delete h | test h | list h => exact absurd (ht.symm.trans h) (by decide)
  · rintro ⟨_, hp, hk, rfl⟩
    exact .read ht hp hk

lemma handleDelete_begins (ht : msg.tag = MSG_KEYSTORE_DELETE) :
    Begins serde msg (handleDelete serde msg) := by
  refine handleKeyed_begins (by rw [ht]; rfl) (by rw [ht]; decide) (fun _ _ => rfl)
    (fun _ => rfl) fun found => ⟨?_, ?_⟩
  · intro ha
    cases ha with
    | delete _ hp hk => exact ⟨_, hp, hk, rfl⟩
    | read h | write h | test h | list h => exact absurd (ht.symm.trans h) (by decide)
  · rintro ⟨_, hp, hk, rfl⟩
    exact .delete ht hp hk

lemma handleExists_begins (ht : msg.tag = MSG_KEYSTORE_EXISTS) :
    Begins serde msg (handleExists serde msg) := by
  refine handleKeyed_begins (by rw [ht]; rfl) (by rw [ht]; decide) (fun _ _ => rfl)
    (fun _ => rfl) fun found => ⟨?_, ?_⟩
  · intro ha
    cases ha with
    | test _ hp hk => exact ⟨_, hp, hk, rfl⟩
    | read h | write h | delete h | list h => exact absurd (ht.symm.trans h) (by decide)
  · rintro ⟨_, hp, hk, rfl⟩
    exact .test ht hp hk

lemma handleWrite_begins (ht : msg.tag = MSG_KEYSTORE_WRITE) :
    Begins serde msg (handleWrite serde msg) := by
  have hr : ∀ error, (∀ found, ¬ Asks serde msg found) → Begins serde msg
      (.RespondViaDebug msg.fromPid MSG_KEYSTORE_WRITE_RESPONSE (.Write (.error error))) := by
    intro error hno
    have hsa : MSG_KEYSTORE_WRITE_RESPONSE = responseTag msg.tag := by
      rw [ht]
      rfl
    rw [hsa]
    exact .rejected ⟨by rw [ht]; decide, hno⟩ rfl
  have ha : ∀ found, Asks serde msg found → ∃ req, serde.writeRequest msg.data = .ok req ∧
      ValidKey req.key ∧ req.value.length ≤ MAX_CONTENT_SIZE := by
    intro found ha
    cases ha with
    | write _ hp hk hs => exact ⟨_, hp, hk, hs⟩
    | read h | delete h | test h | list h => exact absurd (ht.symm.trans h) (by decide)
  unfold handleWrite
  cases hp : serde.writeRequest msg.data with
  | error =>
    refine hr _ fun found hg => ?_
    obtain ⟨req, ho, -⟩ := ha found hg
    rw [hp] at ho
    cases ho
  | ok req =>
    have hn : ∀ found, Asks serde msg found → ValidKey req.key ∧
        req.value.length ≤ MAX_CONTENT_SIZE := by
      intro found hg
      obtain ⟨_, ho, hv, hs⟩ := ha found hg
      rw [hp] at ho
      cases ho
      exact ⟨hv, hs⟩
    dsimp only
    rcases validateKey_cases req.key with ⟨hl, hv⟩ | ⟨error, hl, hi⟩
    · rw [hl]
      by_cases hs : req.value.length > MAX_CONTENT_SIZE
      · rw [if_pos hs]
        exact hr _ fun found hg => absurd (hn _ hg).2 (Nat.not_le_of_lt hs)
      · rw [if_neg hs]
        exact .starts (.write ht hp hv (Nat.le_of_not_lt hs))
    · rw [hl]
      exact hr _ fun found hg => hi (hn _ hg).1

lemma handleList_begins (hb : msg.tag = MSG_KEYSTORE_LIST) :
    Begins serde msg (handleList serde msg) := by
  have hr : ∀ error, (∀ found, ¬ Asks serde msg found) → Begins serde msg
      (.RespondViaDebug msg.fromPid MSG_KEYSTORE_LIST_RESPONSE (.List (.error error))) := by
    intro error hn
    have ha : MSG_KEYSTORE_LIST_RESPONSE = responseTag msg.tag := by
      rw [hb]
      rfl
    rw [ha]
    exact .rejected ⟨by rw [hb]; decide, hn⟩ rfl
  have hk : ∀ found, Asks serde msg found → ∃ req, serde.listRequest msg.data = .ok req ∧
      ("/keys/".toList <+: req.keyStart.toList ∨ req.keyStart = "/keys") := by
    intro found hk
    cases hk with
    | list _ hp hs => exact ⟨_, hp, hs⟩
    | read h | write h | delete h | test h => exact absurd (hb.symm.trans h) (by decide)
  unfold handleList
  cases hp : serde.listRequest msg.data with
  | error =>
    refine hr _ fun found hg => ?_
    obtain ⟨req, ho, -⟩ := hk found hg
    rw [hp] at ho
    cases ho
  | ok req =>
    dsimp only
    by_cases hs : "/keys/".toList <+: req.keyStart.toList ∨ req.keyStart = "/keys"
    · rw [if_neg (by tauto)]
      exact .starts (.list hb hp hs)
    · rw [if_pos (by tauto)]
      refine hr _ fun found hg => ?_
      obtain ⟨_, ho, ht⟩ := hk found hg
      rw [hp] at ho
      cases ho
      exact hs ht

lemma handleRequest_begins : Begins serde msg (handleRequest serde msg) := by
  unfold handleRequest
  split_ifs with hr hw hd ht hl
  · exact handleRead_begins hr
  · exact handleWrite_begins hw
  · exact handleDelete_begins hd
  · exact handleExists_begins ht
  · exact handleList_begins hl
  · exact .unknown (by simp [requestTags, hr, hw, hd, ht, hl])

lemma Asks.confined (ha : Asks serde msg call) : Confined call := by
  cases ha with
  | read _ _ hk | write _ _ hk _ | delete _ _ hk | test _ _ hk => exact hk.1
  | list => trivial

def Outcome (contents : Contents) (call : StorageCall) (failed : Bool) (response : Response) :
    Prop :=
  if failed then response.isOk = false else contents.Yields call response

lemma resume_responds (ha : Asks serde msg call) (ctx : ClientContext) (kind : UInt8)
    (data : List UInt8) :
    ∃ resp, resume serde (opFor ctx call) kind data = .Respond ctx (responseTag msg.tag) resp := by
  cases ha with
  | read ht _ _ | write ht _ _ _ | delete ht _ _ | test ht _ _ | list ht _ _ =>
    rw [ht]
    exact ⟨_, rfl⟩

lemma resume_outcome {data : List UInt8}
    (hr : resume serde (opFor ctx call) kind data = .Respond ctx tag resp)
    (ha : contents.Answers serde call kind data) : Outcome contents call (kind = ERROR) resp := by
  cases ha with
  | read hg =>
    cases hr
    exact .found hg
  | readNothing hg =>
    cases hr
    exact .missing hg
  | written key value =>
    cases hr
    exact .written key value
  | deleted key | deletedNothing _ =>
    cases hr
    exact .deleted _
  | tested key =>
    have hb : decide ([if key ∈ contents then (1 : UInt8) else 0].head? = some 1) =
        decide (key ∈ contents) := by
      by_cases hm : key ∈ contents <;> simp [hm]
    have hy := @Contents.Yields.tested contents key
    rw [← hb] at hy
    cases hr
    exact hy
  | @testedNothing key hg =>
    have hn : decide (key ∈ contents) = false := decide_eq_false (BTreeMap.not_mem_iff.mpr hg)
    have hy := @Contents.Yields.tested contents key
    rw [hn] at hy
    cases hr
    exact hy
  | listed hd hk =>
    simp only [resume, handleListResult, hd] at hr
    cases hr
    exact .listed hk
  | listedNothing hnn =>
    cases hr
    exact .listed (by rw [hnn])
  | failed => cases call <;> cases hr <;> rfl

end

end ZeroOS.Keystore

namespace ZeroOS.KeystoreService

open Vfs (ClientContext AppError StorageCall)

variable (serde : Keystore.Serde) (sys : Keystore.Syscalls) (service : KeystoreService)

lemma startKeystore_cases :
    (∃ e, service.startKeystore sys call op = ⟨service, .error e, []⟩) ∨
      ∃ id, sys.keystore call = .ok id ∧ service.pendingOps.size < Keystore.MAX_PENDING_OPS ∧
        service.startKeystore sys call op =
          ⟨⟨service.pendingOps.insert id.toUInt64.toUInt32 op⟩, .ok (),
            [.Issue id.toUInt64.toUInt32 call]⟩ := by
  unfold startKeystore
  by_cases hf : service.pendingOps.size ≥ Keystore.MAX_PENDING_OPS
  · exact .inl ⟨_, if_pos hf⟩
  · rw [if_neg hf]
    cases hc : sys.keystore call with
    | error => exact .inl ⟨_, rfl⟩
    | ok id => exact .inr ⟨id, rfl, Nat.lt_of_not_le hf, rfl⟩

lemma perform_respond (ctx : ClientContext) (tag : UInt32) (resp : Keystore.Response) :
    ∃ effect, service.perform serde sys (.Respond ctx tag resp) =
      ⟨service, .ok (), [effect]⟩ ∧ Keystore.Addressed ctx tag resp effect := by
  obtain ⟨data, hd⟩ := serde.responseToVec_ok resp
  simp only [perform, sendResponse, hd]
  cases hl : ctx.replyCaps.head? with
  | none => exact ⟨_, rfl, .inr rfl⟩
  | some slot =>
    cases hs : sys.send slot tag data with
    | error => exact ⟨.DebugResponse ctx.pid tag resp, by simp only [hs], .inr rfl⟩
    | ok => exact ⟨.Reply slot tag resp, by simp only [hs], .inl ⟨slot, hl, rfl⟩⟩

lemma perform_respondViaDebug :
    service.perform serde sys (.RespondViaDebug toPid tag resp) =
      ⟨service, .ok (), [.DebugResponse toPid tag resp]⟩ := by
  obtain ⟨_, hd⟩ := serde.responseToVec_ok resp
  simp only [perform, sendResponseViaDebug, hd]

end ZeroOS.KeystoreService
