import Mathlib.Order.Lattice
import ZeroOS.Core.Run

/-!
The queues of the pure core against the history of calls.
-/

namespace ZeroOS.Core

open Run Option BTreeMap Permissions Core.Endpoint StateView

-- The queue of an endpoint, empty if there is no such endpoint.
def pending (endpoints : BTreeMap EndpointId Endpoint) (eid : EndpointId) : List Message :=
  (endpoints[eid]?.map Endpoint.pendingMessages).getD []

def highWater (endpoints : BTreeMap EndpointId Endpoint) (eid : EndpointId) : Nat :=
  (endpoints[eid]?.map fun endpoint => endpoint.metrics.queueHighWater).getD 0

-- The messages and bytes counted.
def totals (endpoints : BTreeMap EndpointId Endpoint) (eid : EndpointId) : UInt64 × UInt64 :=
  (endpoints[eid]?.map fun endpoint =>
    (endpoint.metrics.totalMessages, endpoint.metrics.totalBytes)).getD (0, 0)

def tally (messages : List Message) : UInt64 × UInt64 :=
  (.ofNat messages.length, .ofNat (messages.flatMap Message.data).length)

namespace StateView

variable (view : StateView) (pid : ProcessId)

def posted : Syscall → SyscallResult → Option (CapSlot × Message)
  | .Send slot tag data, .Ok _ => some (slot, ⟨pid, tag, data, []⟩)
  | .Call slot tag data, .WouldBlock => some (slot, ⟨pid, tag, data, []⟩)
  | .SendWithCaps slot tag data capSlots, .Ok _ =>
    (view.capSpaces[pid]?.bind fun cspace => KernelState.transferredCaps cspace capSlots).map
      fun caps => (slot, ⟨pid, tag, data, caps⟩)
  | _, _ => none

def payload : Syscall → Option (CapSlot × UInt32 × List UInt8)
  | .Send slot tag data | .Call slot tag data | .SendWithCaps slot tag data _ =>
    some (slot, tag, data)
  | _ => none

-- The message that a call returned.
def fetched : Syscall → SyscallResult → Option (CapSlot × Message)
  | .Receive slot, .Message msg => some (slot, msg)
  | _, _ => none

def through (eid : EndpointId) : Option (CapSlot × Message) → List Message
  | some (slot, msg) =>
    if (view.capSpaces.capAt pid slot).map Capability.objectId = some eid then [msg] else []
  | none => []

end StateView

namespace KernelState

variable (eid : EndpointId) (state : KernelState)

def enqueued : Action → List Message
  | .Register _ _ => []
  | .Call pid syscall now =>
    state.view.through pid eid (state.view.posted pid syscall (state.step pid syscall now).result)

def received : Action → List Message
  | .Register _ _ => []
  | .Call pid syscall now =>
    state.view.through pid eid (StateView.fetched syscall (state.step pid syscall now).result)

-- How long the queue is after an action.
def depth (action : Action) : List Nat :=
  [(pending (state.act action).endpoints eid).length]

end KernelState

-- What a call does to the table of endpoints, with what it was allowed by.
inductive QueueStep (pid : ProcessId) (now : UInt64) (view : StateView) (syscall : Syscall)
    (result : SyscallResult) : BTreeMap EndpointId Endpoint → Prop where
  | Quiet (hposted : view.posted pid syscall result = none) (hfetched : fetched syscall result = none) :
      QueueStep pid now view syscall result view.endpoints
  | Create (hcall : syscall = .CreateEndpoint) (halive : view.Alive pid)
      (hposted : view.posted pid syscall result = none)
      (hfetched : fetched syscall result = none) :
      QueueStep pid now view syscall result (view.addEndpoint pid).endpoints
  | Push (slot : CapSlot) (msg : Message) (cap : Capability) (endpoint : Endpoint)
      (hposted : view.posted pid syscall result = some (slot, msg))
      (hfetched : fetched syscall result = none)
      (hheld : view.HoldsEndpoint pid slot now Permissions.write cap endpoint)
      (hpayload : payload syscall = some (slot, msg.tag, msg.data)) (hsender : msg.sender = pid)
      (hsize : msg.data.length ≤ MAX_MESSAGE_SIZE)
      (hcaps : msg.caps.length ≤ MAX_CAPS_PER_MESSAGE) :
      QueueStep pid now view syscall result
        (view.putEndpoint cap.objectId (endpoint.enqueue msg)).endpoints
  | Pop (slot : CapSlot) (cap : Capability) (endpoint : Endpoint)
      (hcall : syscall = .Receive slot) (hposted : view.posted pid syscall result = none)
      (hfetched : fetched syscall result = endpoint.pendingMessages.head?.map fun msg => (slot, msg))
      (hheld : view.HoldsEndpoint pid slot now Permissions.read cap endpoint) :
      QueueStep pid now view syscall result
        (view.putEndpoint cap.objectId endpoint.dequeue.2).endpoints

lemma transferredCaps_length (h : KernelState.transferredCaps cs slots = some caps) :
    caps.length = slots.length := by
  induction slots generalizing caps with
  | nil =>
    cases h
    rfl
  | cons slot _ ih =>
    simp only [KernelState.transferredCaps] at h
    cases hg : cs.get slot with
    | none => simp [hg] at h
    | some =>
      simp only [hg] at h
      obtain ⟨_, hr, rfl⟩ := map_eq_some_iff.mp h
      rw [List.length_cons, List.length_cons, ih hr]

section Step

variable {pid : ProcessId} {now : UInt64} {view view' : StateView} {syscall : Syscall}
  {result : SyscallResult}

lemma posted_of_query (hq : Query syscall) : view.posted pid syscall result = none := by
  cases syscall with
  | Send | Call | SendWithCaps => exact hq.elim
  | _ => rfl

lemma fetched_of_query (hq : Query syscall) : fetched syscall result = none := by
  cases syscall with
  | Receive => exact hq.elim
  | _ => rfl

lemma posted_of_err : view.posted pid syscall (.Err e) = none := by
  cases syscall <;> rfl

lemma fetched_of_err : fetched syscall (.Err e) = none := by
  cases syscall <;> rfl

lemma Step.queueStep (hs : Step pid now view syscall result view') :
    QueueStep pid now view syscall result view'.endpoints := by
  cases hs with
  | Refused _ e => exact .Quiet posted_of_err fetched_of_err
  | Query _ _ hq => exact .Quiet (posted_of_query hq) (fetched_of_query hq)
  | CreateEndpoint _ _ ha | CreateBare _ ha => exact .Create rfl ha rfl rfl
  | Send slot _ _ cap endpoint hi hl | Call slot _ _ cap endpoint hi hl =>
    exact .Push slot _ cap endpoint rfl rfl hl rfl rfl hi (Nat.zero_le _)
  | SendWithCaps slot tag data _ cap endpoint _ caps hi hc hl hcs hp =>
    refine .Push slot ⟨pid, tag, data, caps⟩ cap endpoint ?_ rfl hl rfl rfl hi ?_
    · simp only [posted, hcs, bind_some, hp, map_some]
    · rw [transferredCaps_length hp]
      exact hc
  | Receive slot cap endpoint _ hl hh =>
    exact .Pop slot cap endpoint rfl rfl (by rw [hh]; rfl) hl
  | Empty slot cap endpoint hl he =>
    exact .Pop slot cap endpoint rfl rfl (by rw [he]; rfl) hl
  | _ => exact .Quiet rfl rfl

end Step

-- The readings of a queue before and after.

section Reading

variable {endpoints : BTreeMap EndpointId Endpoint} {eid other : EndpointId} {endpoint : Endpoint}

lemma pending_of_found (hg : endpoints[eid]? = some endpoint) :
    pending endpoints eid = endpoint.pendingMessages := by
  simp [pending, hg]

lemma highWater_of_found (hg : endpoints[eid]? = some endpoint) :
    highWater endpoints eid = endpoint.metrics.queueHighWater := by
  simp [highWater, hg]

lemma pending_of_not_mem (hn : eid ∉ endpoints) : pending endpoints eid = [] := by
  simp [pending, not_mem_iff.mp hn]

lemma highWater_of_not_mem (hn : eid ∉ endpoints) : highWater endpoints eid = 0 := by
  simp [highWater, not_mem_iff.mp hn]

lemma pending_insert :
    pending (endpoints.insert other endpoint) eid =
      if other = eid then endpoint.pendingMessages else pending endpoints eid := by
  unfold pending
  rw [get_insert]
  split <;> rfl

lemma highWater_insert :
    highWater (endpoints.insert other endpoint) eid =
      if other = eid then endpoint.metrics.queueHighWater else highWater endpoints eid := by
  unfold highWater
  rw [get_insert]
  split <;> rfl

lemma through_of_held {view : StateView} (hh : view.capSpaces.capAt pid slot = some cap) :
    view.through pid eid (some (slot, msg)) = if cap.objectId = eid then [msg] else [] := by
  simp [through, hh]

end Reading

namespace QueueStep

variable {pid : ProcessId} {now : UInt64} {view : StateView} {syscall : Syscall}
  {result : SyscallResult} {endpoints : BTreeMap EndpointId Endpoint}

lemma balance (hq : QueueStep pid now view syscall result endpoints)
    (hr : view.nextEndpointId ∉ view.endpoints) :
    pending view.endpoints eid ++ view.through pid eid (view.posted pid syscall result) =
      view.through pid eid (fetched syscall result) ++ pending endpoints eid := by
  cases hq with
  | Quiet hp hf =>
    rw [hp, hf]
    exact List.append_nil _
  | Create _ _ hp hf =>
    rw [hp, hf, addEndpoint, pending_insert]
    split_ifs with he
    · rw [← he, pending_of_not_mem hr]
      rfl
    · exact List.append_nil _
  | Push _ _ _ _ hp hf hh =>
    rw [hp, hf, putEndpoint, pending_insert, through_of_held hh.held]
    split_ifs with he
    · rw [← he, pending_of_found hh.found]
      rfl
    · exact List.append_nil _
  | Pop _ cap endpoint _ hp hf hh =>
    rw [hp, hf, putEndpoint, pending_insert]
    by_cases he : cap.objectId = eid
    · rw [← he, pending_of_found hh.found]
      cases hq : endpoint.pendingMessages with
      | nil => simp [dequeue, hq]
      | cons =>
        rw [List.head?_cons, map_some, through_of_held hh.held]
        simp [dequeue, hq, through]
    · rw [if_neg he]
      cases endpoint.pendingMessages.head? with
      | none => exact List.append_nil _
      | some =>
        rw [map_some, through_of_held hh.held, if_neg he]
        exact List.append_nil _

-- The metrics that are kept beside the queue.

def DepthsRight (endpoints : BTreeMap EndpointId Endpoint) : Prop :=
  ∀ (eid : EndpointId) endpoint, endpoints[eid]? = some endpoint →
    endpoint.metrics.queueDepth = endpoint.pendingMessages.length

lemma depths (hq : QueueStep pid now view syscall result endpoints)
    (hd : DepthsRight view.endpoints) : DepthsRight endpoints := by
  have hi : ∀ (other : EndpointId) (new : Endpoint),
      new.metrics.queueDepth = new.pendingMessages.length →
      DepthsRight (view.endpoints.insert other new) := by
    intro other new hn eid endpoint hg
    rw [get_insert] at hg
    split_ifs at hg
    · rw [← some.inj hg]
      exact hn
    · exact hd eid _ hg
  cases hq with
  | Quiet => exact hd
  | Create | Push | Pop => exact hi _ _ rfl

lemma highWater_eq (hq : QueueStep pid now view syscall result endpoints)
    (hf : view.nextEndpointId ∉ view.endpoints)
    (hl : (pending view.endpoints eid).length ≤ highWater view.endpoints eid) :
    highWater endpoints eid = max (highWater view.endpoints eid) (pending endpoints eid).length := by
  cases hq with
  | Quiet => omega
  | Create =>
    rw [addEndpoint, highWater_insert, pending_insert]
    split_ifs with he
    · rw [← he, highWater_of_not_mem hf]
      rfl
    · omega
  | Push _ _ _ _ _ _ hh =>
    rw [putEndpoint, highWater_insert, pending_insert]
    split_ifs with he
    · rw [← he, highWater_of_found hh.found]
      simp only [enqueue]
      split <;> omega
    · omega
  | Pop _ _ _ _ _ _ hh =>
    rw [putEndpoint, highWater_insert, pending_insert]
    split_ifs with he
    · rw [← he, pending_of_found hh.found, highWater_of_found hh.found] at hl
      rw [← he, highWater_of_found hh.found]
      simp only [dequeue, List.length_tail]
      omega
    · omega

lemma totals_eq (hq : QueueStep pid now view syscall result endpoints)
    (hr : view.nextEndpointId ∉ view.endpoints) (ht : totals view.endpoints eid = tally seen) :
    totals endpoints eid =
      tally (seen ++ view.through pid eid (view.posted pid syscall result)) := by
  cases hq with
  | Quiet hp => rwa [hp, through, List.append_nil]
  | Create _ _ hp =>
    rw [hp, through, List.append_nil, ← ht, totals, totals, addEndpoint, get_insert]
    split_ifs with he
    · rw [← he, not_mem_iff.mp hr]
      rfl
    · rfl
  | Push _ _ _ _ hp _ hh =>
    rw [hp, through_of_held hh.held, totals, putEndpoint, get_insert]
    split_ifs with he
    · rw [← he, totals, hh.found] at ht
      simp only [map_some, getD_some, tally, Prod.mk.injEq] at ht
      simp [enqueue, tally, ht]
    · rwa [List.append_nil]
  | Pop _ _ _ _ hp _ hh =>
    rw [hp, through, List.append_nil, ← ht, totals, totals, putEndpoint, get_insert]
    split_ifs with he
    · rw [← he, hh.found]
      rfl
    · rfl

lemma mem_through (hm : msg ∈ view.through pid eid entry) :
    ∃ slot cap, entry = some (slot, msg) ∧ view.capSpaces.capAt pid slot = some cap ∧
      cap.objectId = eid := by
  cases entry with
  | none => cases hm
  | some entry =>
    obtain ⟨slot, _⟩ := entry
    simp only [through] at hm
    split_ifs at hm with hn
    · obtain ⟨cap, hh, ho⟩ := map_eq_some_iff.mp hn
      rw [List.mem_singleton.mp hm]
      exact ⟨slot, cap, rfl, hh, ho⟩
    · cases hm

lemma of_posted (hq : QueueStep pid now view syscall result endpoints)
    (he : view.posted pid syscall result = some (slot, msg)) :
    ∃ cap endpoint, view.HoldsEndpoint pid slot now write cap endpoint ∧
      payload syscall = some (slot, msg.tag, msg.data) ∧ msg.sender = pid ∧
      msg.data.length ≤ MAX_MESSAGE_SIZE ∧ msg.caps.length ≤ MAX_CAPS_PER_MESSAGE := by
  cases hq with
  | Push _ _ cap endpoint hp _ hh ha hs hi hc =>
    rw [hp] at he
    obtain ⟨rfl, rfl⟩ := Prod.mk.inj (some.inj he)
    exact ⟨cap, endpoint, hh, ha, hs, hi, hc⟩
  | Quiet hp | Create _ _ hp | Pop _ _ _ _ hp =>
    rw [hp] at he
    cases he

lemma of_fetched (hq : QueueStep pid now view syscall result endpoints)
    (he : fetched syscall result = some (slot, msg)) :
    ∃ cap endpoint, view.HoldsEndpoint pid slot now read cap endpoint ∧
      syscall = .Receive slot := by
  cases hq with
  | Pop _ cap endpoint hc _ hf hh =>
    rw [hf] at he
    obtain ⟨_, -, hp⟩ := map_eq_some_iff.mp he
    obtain ⟨rfl, rfl⟩ := Prod.mk.inj hp
    exact ⟨cap, endpoint, hh, hc⟩
  | Quiet _ hf | Create _ _ _ hf | Push _ _ _ _ _ hf =>
    rw [hf] at he
    cases he

end QueueStep

namespace KernelState

def Uses (state : KernelState) (eid : EndpointId) (pid : ProcessId) (slot : CapSlot) (now : UInt64)
    (right : Permissions → Bool) : Prop :=
  ∃ cap endpoint, state.view.HoldsEndpoint pid slot now right cap endpoint ∧ cap.objectId = eid

-- A message that enters the queue carries what the call was made with, by a caller who may write.
structure Enqueues (state : KernelState) (eid : EndpointId) (pid : ProcessId) (syscall : Syscall)
    (now : UInt64) (msg : Message) : Prop where
  sender : msg.sender = pid
  size : msg.data.length ≤ MAX_MESSAGE_SIZE
  caps : msg.caps.length ≤ MAX_CAPS_PER_MESSAGE
  held : ∃ slot, payload syscall = some (slot, msg.tag, msg.data) ∧
    state.Uses eid pid slot now Permissions.write

section

variable (eid : EndpointId) (state : KernelState) (action : Action)

def Authorised : Action → Prop
  | .Register _ _ => True
  | .Call pid syscall now =>
    (∀ msg ∈ state.enqueued eid (.Call pid syscall now),
      state.Enqueues eid pid syscall now msg) ∧
    ∀ msg ∈ state.received eid (.Call pid syscall now),
      ∃ slot, syscall = .Receive slot ∧ state.Uses eid pid slot now Permissions.read

lemma act_authorised : Authorised eid state action := by
  cases action with
  | Register => trivial
  | Call pid syscall now =>
    have hq := (state.step_step pid syscall now).queueStep
    refine ⟨?_, ?_⟩
    · intro msg hm
      obtain ⟨slot, cap, hp, hc, ho⟩ := QueueStep.mem_through hm
      obtain ⟨held, endpoint, hh, ha, he, hi, hb⟩ := hq.of_posted hp
      have hs : held = cap := some.inj (hh.held.symm.trans hc)
      rw [← hs] at ho
      exact ⟨he, hi, hb, slot, ha, held, endpoint, hh, ho⟩
    · intro msg hm
      obtain ⟨slot, cap, hf, hc, ho⟩ := QueueStep.mem_through hm
      obtain ⟨held, endpoint, hh, hl⟩ := hq.of_fetched hf
      have hs : held = cap := some.inj (hh.held.symm.trans hc)
      rw [← hs] at ho
      exact ⟨slot, hl, held, endpoint, hh, ho⟩

lemma act_balance (hf : state.nextEndpointId ∉ state.endpoints) :
    pending state.endpoints eid ++ state.enqueued eid action =
      state.received eid action ++ pending (state.act action).endpoints eid := by
  cases action with
  | Register => exact List.append_nil _
  | Call => exact (state.step_step ..).queueStep.balance hf

end

lemma act_depths {state : KernelState} (hd : QueueStep.DepthsRight state.endpoints) :
    QueueStep.DepthsRight (state.act action).endpoints := by
  cases action with
  | Register => exact hd
  | Call => exact (state.step_step ..).queueStep.depths hd

lemma act_highWater {state : KernelState} (action : Action)
    (hf : state.nextEndpointId ∉ state.endpoints)
    (hl : (pending state.endpoints eid).length ≤ highWater state.endpoints eid) :
    highWater (state.act action).endpoints eid =
      max (highWater state.endpoints eid) (pending (state.act action).endpoints eid).length := by
  cases action with
  | Register => exact (max_eq_left hl).symm
  | Call => exact (state.step_step ..).queueStep.highWater_eq hf hl

lemma depths_run : QueueStep.DepthsRight (run act new actions).endpoints := by
  refine run_invariant act (fun _ _ => True)
    (fun state => QueueStep.DepthsRight state.endpoints) ?_ ?_
    (along_of_forall act (fun _ _ => trivial) new)
  · exact fun state action hd _ => act_depths hd
  · intro eid endpoint hg
    simp [new] at hg

lemma highWater_run (hc : (observed act allocatedEndpointIds new actions).length < 2 ^ 64) :
    highWater (run act new actions).endpoints eid =
      (observed act (depth eid) new actions).foldl max 0 := by
  -- The mark is the largest depth seen, and no smaller than the present one.
  have hi := run_observed_invariant act _ (depth eid)
    (fun seen state => highWater state.endpoints eid = seen.foldl max 0 ∧
      (pending state.endpoints eid).length ≤ highWater state.endpoints eid)
    ?_ ?_ (along_fresh_endpointIds hc)
  · exact hi.1
  · rintro seen state action ⟨hm, hl⟩ hf
    have hn := act_highWater action hf hl
    refine ⟨?_, by omega⟩
    rw [List.foldl_append, ← hm]
    exact hn
  · simp [new, pending, highWater]

end KernelState

open KernelState

-- The history of an endpoint along a run of calls, from a state that a run from the empty one
-- has reached.
structure IpcHistory (eid : EndpointId) (setup calls : List Action) : Prop where
  balance :
    pending (Run.run act new setup).endpoints eid ++
        Run.observed act (enqueued eid) (Run.run act new setup) calls =
      Run.observed act (received eid) (Run.run act new setup) calls ++
        pending (Run.run act new (setup ++ calls)).endpoints eid
  authorised : Run.Along act (Authorised eid) (Run.run act new setup) calls
  metrics : ∀ endpoint, (Run.run act new (setup ++ calls)).endpoints[eid]? = some endpoint →
    endpoint.metrics.queueDepth = endpoint.pendingMessages.length ∧
    endpoint.metrics.queueHighWater =
      (Run.observed act (depth eid) new (setup ++ calls)).foldl max 0

theorem ipcHistory_of_run (eid : EndpointId) (setup calls : List Action)
    (hcount : (Run.observed act allocatedEndpointIds new (setup ++ calls)).length < 2 ^ 64) :
    IpcHistory eid setup calls where
  balance := by
    rw [run_append]
    exact run_balance act (fun state _ => state.nextEndpointId ∉ state.endpoints)
      (fun state => pending state.endpoints eid) (enqueued eid)
      (fun state action hf => state.act_balance eid _ hf)
      ((along_append act).mp (along_fresh_endpointIds hcount)).2
  authorised := along_of_forall act (act_authorised eid) _
  metrics := by
    intro endpoint hg
    refine ⟨depths_run eid _ hg, ?_⟩
    rw [← highWater_run hcount, highWater_of_found hg]

def opened : List Action := [.Register "app" 0, .Call 1 .CreateEndpoint 0]

def posting : Action := .Call 1 (.Send 0 7 [42]) 0

theorem ipcHistory_of_posting :
    Run.observed act (enqueued 1) (Run.run act new opened) [posting, .Call 1 (.Receive 0) 0] =
        [⟨1, 7, [42], []⟩] ∧
      IpcHistory 1 opened [posting, .Call 1 (.Receive 0) 0] :=
  ⟨by decide +kernel, ipcHistory_of_run 1 _ _ (by decide +kernel)⟩

-- An endpoint counts what enters its queue.
theorem totals_of_run (eid : EndpointId) (actions : List Action)
    (hcount : (Run.observed act allocatedEndpointIds new actions).length < 2 ^ 64) :
    totals (Run.run act new actions).endpoints eid =
      tally (Run.observed act (enqueued eid) new actions) := by
  refine run_observed_invariant act _ (enqueued eid)
    (fun seen state => totals state.endpoints eid = tally seen) ?_ ?_
    (along_fresh_endpointIds hcount)
  · intro seen state action ht hf
    cases action with
    | Register => rwa [enqueued, List.append_nil]
    | Call => exact (state.step_step ..).queueStep.totals_eq hf ht
  · simp [KernelState.new, totals, tally]

theorem totals_of_posting :
    totals (Run.run act new (opened ++ [posting])).endpoints 1 = tally [⟨1, 7, [42], []⟩] :=
  totals_of_run 1 (opened ++ [posting]) (by decide +kernel)

-- The counter of endpoints comes round: a new endpoint takes the place of the first one, and
-- what was in its queue is lost.

lemma Step.create {view view' : StateView}
    (hs : Step pid now view .CreateEndpoint result view') (ha : view.Alive pid) :
    view'.processes = view.processes ∧ view'.nextEndpointId = view.nextEndpointId + 1 ∧
      view'.endpoints = (view.addEndpoint pid).endpoints := by
  cases hs with
  | Refused _ _ hn => exact absurd ha hn
  | Query _ _ hq => exact hq.elim
  | CreateEndpoint | CreateBare => exact ⟨rfl, rfl, rfl⟩

lemma creations_run (ha : state.view.Alive 1) (count : Nat) :
    (run act state (List.replicate count (.Call 1 .CreateEndpoint 0))).view.Alive 1 ∧
      (run act state (List.replicate count (.Call 1 .CreateEndpoint 0))).nextEndpointId =
        state.nextEndpointId + UInt64.ofNat count := by
  induction count generalizing state with
  | zero => exact ⟨ha, by simp⟩
  | succ _ ih =>
    obtain ⟨hp, hn, -⟩ := (state.step_step 1 .CreateEndpoint 0).create ha
    have halive' : (state.act (.Call 1 .CreateEndpoint 0)).view.Alive 1 := by
      unfold StateView.Alive act
      rw [hp]
      exact ha
    obtain ⟨hr, hc⟩ := ih halive'
    rw [List.replicate_succ, run_cons]
    refine ⟨hr, ?_⟩
    rw [hc, show (state.act (.Call 1 .CreateEndpoint 0)).nextEndpointId = _ from hn,
      UInt64.ofNat_add, UInt64.add_assoc, UInt64.add_comm 1]
    rfl

lemma observed_creations (eid : EndpointId) (state : KernelState) (count : Nat) :
    observed act (enqueued eid) state (List.replicate count (.Call 1 .CreateEndpoint 0)) = [] ∧
      observed act (received eid) state (List.replicate count (.Call 1 .CreateEndpoint 0)) =
        [] := by
  induction count generalizing state with
  | zero => exact ⟨rfl, rfl⟩
  | succ _ ih =>
    obtain ⟨he, hr⟩ := ih (state.act (.Call 1 .CreateEndpoint 0))
    rw [List.replicate_succ, observed, observed, he, hr]
    exact ⟨rfl, rfl⟩

lemma pending_of_wrap (ha : state.view.Alive 1) (hn : state.nextEndpointId = 2)
    (hc : count + 1 = 2 ^ 64) :
    pending (run act state
      (List.replicate (count + 1) (.Call 1 .CreateEndpoint 0))).endpoints 1 = [] := by
  obtain ⟨hl, hr⟩ := creations_run ha count
  rw [List.replicate_succ', run_append]
  generalize run act state (List.replicate count (.Call 1 .CreateEndpoint 0)) = last at hl hr ⊢
  obtain ⟨-, -, he⟩ := (last.step_step 1 .CreateEndpoint 0).create hl
  have ho : last.nextEndpointId = 1 := by
    rw [hr, hn]
    apply UInt64.toNat_inj.mp
    change (2 + count % 2 ^ 64) % 2 ^ 64 = 1
    omega
  rw [run_cons, run_nil]
  unfold act
  rw [show (last.step 1 .CreateEndpoint 0).state.endpoints = _ from he, addEndpoint,
    pending_insert, view_nextEndpointId, if_pos ho]
  rfl

theorem exists_lost_message :
    ∃ actions : List Action,
      Run.observed act (enqueued 1) new actions ≠
        Run.observed act (received 1) new actions ++
          pending (Run.run act new actions).endpoints 1 := by
  obtain ⟨count, hc⟩ : ∃ count, count + 1 = 2 ^ 64 := ⟨2 ^ 64 - 1, by decide⟩
  have hs : observed act (enqueued 1) new (opened ++ [posting]) ≠
      observed act (received 1) new (opened ++ [posting]) := by decide +kernel
  have halive : (run act new (opened ++ [posting])).view.Alive 1 :=
    ⟨⟨1, "app", .Running⟩, by decide +kernel⟩
  have hn : (run act new (opened ++ [posting])).nextEndpointId = 2 := by decide +kernel
  generalize opened ++ [posting] = start at hs halive hn
  refine ⟨start ++ List.replicate (count + 1) (.Call 1 .CreateEndpoint 0), ?_⟩
  obtain ⟨he, hr⟩ := observed_creations 1 (run act new start) (count + 1)
  rw [observed_append, observed_append, he, hr, run_append, pending_of_wrap halive hn hc]
  simpa using hs

end ZeroOS.Core
