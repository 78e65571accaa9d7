import ZeroOS.Kernel.System.Mail
import ZeroOS.Lib.MapSum

/-!
The metrics of the endpoints and of the system, against what the queues of a run really held.
-/

namespace ZeroOS

open List BTreeMap KernelCore UInt64

namespace Mailboxes

def queue (mail : Mailboxes) (eid : EndpointId) : List Message :=
  (mail.endpoints[eid]?.map Endpoint.pendingMessages).getD []

-- A call adds to the end of a queue or takes from its front, so that what it added is
-- whatever lies beyond the old length.
def enqueued (change : Mailboxes × Mailboxes) (eid : EndpointId) : List Message :=
  (change.2.queue eid).drop (change.1.queue eid).length

def enqueuedCount (change : Mailboxes × Mailboxes) : Nat :=
  (change.2.endpoints.toList.map fun entry => (enqueued change entry.1).length).sum

-- Everything that was ever put into a queue.
def received (changes : List (Mailboxes × Mailboxes)) (eid : EndpointId) : List Message :=
  changes.flatMap fun change => enqueued change eid

def longest (changes : List (Mailboxes × Mailboxes)) (eid : EndpointId) : Nat :=
  changes.foldl (fun length change => max length (change.2.queue eid).length) 0

def receivedCount (changes : List (Mailboxes × Mailboxes)) : Nat := (changes.map enqueuedCount).sum

end Mailboxes

-- The metrics of an endpoint that got these messages and had a queue of this length at most.
-- The counters wrap.
structure Endpoint.Counted (endpoint : Endpoint) (received : List Message) (longest : Nat) :
    Prop where
  queueDepth : endpoint.metrics.queueDepth = endpoint.pendingMessages.length
  queueHighWater : endpoint.metrics.queueHighWater = longest
  totalMessages : endpoint.metrics.totalMessages = UInt64.ofNat received.length
  totalBytes : endpoint.metrics.totalBytes =
    UInt64.ofNat (received.map fun msg => msg.data.length).sum
  within : endpoint.pendingMessages.length ≤ longest

-- Endpoints are numbered in order, and a number not yet used has no history.
structure Mailboxes.Ledger (received : EndpointId → List Message) (longest : EndpointId → Nat)
    (total : Nat) (mail : Mailboxes) : Prop where
  counted : ∀ (eid : EndpointId) (endpoint : Endpoint), mail.endpoints[eid]? = some endpoint →
    endpoint.Counted (received eid) (longest eid)
  used : ∀ (eid : EndpointId) (endpoint : Endpoint), mail.endpoints[eid]? = some endpoint →
    eid < mail.nextEndpointId
  fresh : ∀ eid, ¬ eid < mail.nextEndpointId → received eid = [] ∧ longest eid = 0
  total : mail.totalIpcCount = UInt64.ofNat total

lemma lt_add_one_of_lt {eid next : UInt64} (hn : next ≠ 0xFFFFFFFFFFFFFFFF)
    (hl : eid < next ∨ eid = next) : eid < next + 1 := by
  have hm : next.toNat ≠ 18446744073709551615 := fun h => hn (UInt64.toNat_inj.mp h)
  have hb := next.toNat_lt
  rw [UInt64.lt_iff_toNat_lt, UInt64.toNat_add, UInt64.toNat_one]
  rcases hl with hl | rfl
  · rw [lt_iff_toNat_lt] at hl
    omega
  · omega

lemma Endpoint.Counted.taken (hc : Endpoint.Counted ep received longest)
    (hq : ep.pendingMessages = msg :: rest) : (ep.taken rest).Counted received longest := by
  refine ⟨rfl, hc.queueHighWater, hc.totalMessages, hc.totalBytes, ?_⟩
  have hi := hc.within
  rw [hq, length_cons] at hi
  exact Nat.le_of_succ_le hi

lemma Endpoint.Counted.sent (hc : Endpoint.Counted ep received longest) (msg : Message) :
    (ep.sent msg).Counted (received ++ [msg])
      (max longest (ep.pendingMessages ++ [msg]).length) := by
  refine ⟨rfl, ?_, ?_, ?_, Nat.le_max_right _ _⟩
  · simp only [Endpoint.sent, sentMetrics, hc.queueHighWater]
    split <;> omega
  · simp only [Endpoint.sent, sentMetrics, hc.totalMessages, length_append, ofNat_add]
    rfl
  · simp only [Endpoint.sent, sentMetrics, hc.totalBytes, map_append,
      sum_append, ofNat_add, map_cons, map_nil, sum_singleton]

namespace Mailboxes

lemma queue_of_get {mail : Mailboxes} (hg : mail.endpoints[eid]? = some ep) :
    mail.queue eid = ep.pendingMessages := by
  rw [queue, hg]
  rfl

lemma queue_insert {mail : Mailboxes} {next total : UInt64} :
    queue ⟨mail.endpoints.insert eid ep, next, total⟩ other =
      if eid = other then ep.pendingMessages else mail.queue other := by
  simp only [queue, get_insert]
  split
  · rfl
  · rfl

lemma length_queue_le {mail after : Mailboxes}
    (hk : ∀ (eid : EndpointId) (ep : Endpoint), after.endpoints[eid]? = some ep →
      mail.endpoints[eid]? = some ep) (eid : EndpointId) :
    (after.queue eid).length ≤ (mail.queue eid).length := by
  cases hg : after.endpoints[eid]? with
  | none => simp [queue, hg]
  | some ep => rw [queue_of_get hg, queue_of_get (hk eid ep hg)]

variable {received : EndpointId → List Message} {longest : EndpointId → Nat} {total : Nat}
  {mail after : Mailboxes}

section

variable (hled : Ledger received longest total mail)

include hled

lemma Ledger.insert (hu : eid < mail.nextEndpointId)
    (hc : ep.Counted (received eid) (longest eid)) :
    Ledger received longest total
      ⟨mail.endpoints.insert eid ep, mail.nextEndpointId, mail.totalIpcCount⟩ := by
  refine ⟨fun other found hg => ?_, fun other found hg => ?_, hled.fresh, hled.total⟩
  all_goals
    rw [get_insert] at hg
    split at hg
  · next he => exact Option.some.inj hg ▸ he ▸ hc
  · exact hled.counted other found hg
  · next he => exact he ▸ hu
  · exact hled.used other found hg

lemma Ledger.restrict {endpoints : BTreeMap EndpointId Endpoint}
    (hk : ∀ (eid : EndpointId) (ep : Endpoint), endpoints[eid]? = some ep →
      mail.endpoints[eid]? = some ep) :
    Ledger received longest total ⟨endpoints, mail.nextEndpointId, mail.totalIpcCount⟩ :=
  ⟨fun eid ep hg => hled.counted eid ep (hk eid ep hg),
    fun eid ep hg => hled.used eid ep (hk eid ep hg),
    hled.fresh, hled.total⟩

lemma Ledger.advance (hn : mail.nextEndpointId ≠ 0xFFFFFFFFFFFFFFFF) :
    Ledger received longest total ⟨mail.endpoints, mail.nextEndpointId + 1, mail.totalIpcCount⟩ :=
  ⟨hled.counted, fun eid ep hg => lt_add_one_of_lt hn (.inl (hled.used eid ep hg)),
    fun eid hf => hled.fresh eid fun hl => hf (lt_add_one_of_lt hn (.inl hl)),
    hled.total⟩

lemma Ledger.quiet (hn : mail.nextEndpointId ≠ 0xFFFFFFFFFFFFFFFF)
    (ht : MailStep False (fun _ => False) mail after) :
    Ledger received longest total after ∧
      ∀ eid, (after.queue eid).length ≤ (mail.queue eid).length := by
  cases ht with
  | Idle => exact ⟨hled, fun _ => Nat.le_refl _⟩
  | Open owner =>
    obtain ⟨ho, hz⟩ := hled.fresh mail.nextEndpointId (UInt64.lt_irrefl _)
    refine ⟨(hled.advance hn).insert (lt_add_one_of_lt hn (.inr rfl)) ?_, fun eid => ?_⟩
    · rw [ho, hz]
      exact ⟨rfl, rfl, rfl, rfl, Nat.le_refl 0⟩
    · rw [queue_insert]
      split
      · exact Nat.zero_le _
      · exact Nat.le_refl _
  | Fail =>
    have hk : ∀ (eid : EndpointId) (ep : Endpoint),
        (mail.endpoints.erase mail.nextEndpointId)[eid]? = some ep →
          mail.endpoints[eid]? = some ep := by
      intro eid ep hg
      rw [get_erase] at hg
      split at hg
      · cases hg
      · exact hg
    exact ⟨(hled.advance hn).restrict hk, length_queue_le hk⟩
  | Close pid =>
    have hk : ∀ (eid : EndpointId) (ep : Endpoint),
        (mail.endpoints.filter fun _ ep => ep.owner != pid)[eid]? = some ep →
          mail.endpoints[eid]? = some ep := by
      intro eid ep hg
      rw [get_filter, Option.filter_eq_some_iff] at hg
      exact hg.1
    exact ⟨hled.restrict hk, length_queue_le hk⟩
  | Take eid ep msg rest hg hq =>
    refine ⟨hled.insert (hled.used eid ep hg) ((hled.counted eid ep hg).taken hq), fun other => ?_⟩
    rw [queue_insert]
    split
    · next he =>
      rw [← he, queue_of_get hg, hq]
      exact Nat.le_succ _
    · exact Nat.le_refl _
  | Send _ _ _ hs | Inject _ _ _ hs => exact hs.elim

end

-- The ledger, with what the queues show of a change written into it.
def LedgerAfter (received : EndpointId → List Message) (longest : EndpointId → Nat) (total : Nat)
    (mail after : Mailboxes) : Prop :=
  Ledger (fun eid => received eid ++ enqueued (mail, after) eid)
    (fun eid => max (longest eid) (after.queue eid).length)
    (total + enqueuedCount (mail, after)) after

lemma Ledger.length_queue_le (hled : Ledger received longest total mail) (eid : EndpointId) :
    (mail.queue eid).length ≤ longest eid := by
  cases hg : mail.endpoints[eid]? with
  | none => simp [queue, hg]
  | some ep =>
    rw [queue_of_get hg]
    exact (hled.counted eid ep hg).within

lemma Ledger.after_of_shorter (hb : Ledger received longest total mail)
    (ha : Ledger received longest total after)
    (hs : ∀ eid, (after.queue eid).length ≤ (mail.queue eid).length) :
    LedgerAfter received longest total mail after := by
  have hn : ∀ eid, enqueued (mail, after) eid = [] := fun eid =>
    drop_eq_nil_of_le (hs eid)
  have hl : ∀ eid, max (longest eid) (after.queue eid).length = longest eid := fun eid =>
    Nat.max_eq_left (Nat.le_trans (hs eid) (hb.length_queue_le eid))
  have hc : enqueuedCount (mail, after) = 0 := by
    simp [enqueuedCount, hn]
  simp only [LedgerAfter, hn, hl, hc, append_nil, Nat.add_zero]
  exact ha

section

variable (hled : Ledger received longest total mail)

include hled

lemma Ledger.after_quiet (hn : mail.nextEndpointId ≠ 0xFFFFFFFFFFFFFFFF)
    (hs : MailStep False (fun _ => False) mail after) :
    LedgerAfter received longest total mail after :=
  hled.after_of_shorter (hled.quiet hn hs).1 (hled.quiet hn hs).2

lemma Ledger.send (hg : mail.endpoints[eid]? = some ep) (msg : Message) :
    LedgerAfter received longest total mail
      ⟨mail.endpoints.insert eid (ep.sent msg), mail.nextEndpointId, mail.totalIpcCount + 1⟩ := by
  have hen : ∀ other, enqueued (mail, ⟨mail.endpoints.insert eid (ep.sent msg),
      mail.nextEndpointId, mail.totalIpcCount + 1⟩) other = if eid = other then [msg] else [] := by
    intro other
    simp only [enqueued, queue_insert]
    split
    · next he =>
      rw [← he, queue_of_get hg]
      exact drop_left
    · exact drop_length
  have hc : enqueuedCount (mail, ⟨mail.endpoints.insert eid (ep.sent msg),
      mail.nextEndpointId, mail.totalIpcCount + 1⟩) = 1 := by
    have hgo : (mail.endpoints.insert eid (ep.sent msg))[eid]? = some (ep.sent msg) := by simp
    have hp := (toList_perm_of_get _ hgo).map
      fun entry => (if eid = entry.1 then [msg] else []).length
    simp only [enqueuedCount, hen]
    rw [hp.sum_eq, map_cons, sum_cons, if_pos rfl, length_singleton, sum_eq_zero, Nat.add_zero]
    intro count hc
    obtain ⟨entry, hm, rfl⟩ := mem_map.mp hc
    rw [mem_toList, get_erase] at hm
    split at hm
    · cases hm
    · next hn => rw [if_neg hn, length_nil]
  have hu := hled.used eid ep hg
  simp only [LedgerAfter, hen, hc, queue_insert]
  refine ⟨fun other found ho => ?_, fun other found ho => ?_, fun other hf => ?_, ?_⟩
  · rw [get_insert] at ho
    split at ho
    · next he =>
      subst he
      cases ho
      simp only [if_true]
      exact (hled.counted eid ep hg).sent msg
    · next hn =>
      have hco := hled.counted other found ho
      simp only [if_neg hn, append_nil, queue_of_get ho, Nat.max_eq_left hco.within]
      exact hco
  · rw [get_insert] at ho
    split at ho
    · next he => exact he ▸ hu
    · exact hled.used other found ho
  · have hn : eid ≠ other := fun he => hf (he ▸ hu)
    obtain ⟨hno, hz⟩ := hled.fresh other hf
    have hem : (mail.queue other).length ≤ 0 := hz ▸ hled.length_queue_le other
    simp only [if_neg hn, append_nil, hno, hz, Nat.max_eq_left hem, and_self]
  · rw [hled.total, ofNat_add]
    rfl

lemma Ledger.steps (hn : mail.nextEndpointId ≠ 0xFFFFFFFFFFFFFFFF)
    (hs : MailSteps False sends mail after) : LedgerAfter received longest total mail after := by
  rcases hs with ht | ⟨between, hf, ha, he⟩
  · cases ht with
    | Send eid ep msg _ hg => exact hled.send hg msg
    | Inject _ _ _ _ _ hi => exact hi.elim
    | Idle => exact hled.after_quiet hn .Idle
    | Open owner => exact hled.after_quiet hn (.Open owner)
    | Fail => exact hled.after_quiet hn .Fail
    | Close pid => exact hled.after_quiet hn (.Close pid)
    | Take eid ep msg rest hg hq =>
      exact hled.after_quiet hn (.Take eid ep msg rest hg hq)
  · obtain ⟨hm, hfi⟩ := hled.quiet hn hf
    obtain ⟨haf, hc⟩ := hm.quiet (ha ▸ hn) he
    exact hled.after_of_shorter haf fun eid =>
      Nat.le_trans (hc eid) (hfi eid)

end

end Mailboxes

namespace System

open Mailboxes (Ledger enqueuedCount longest receivedCount)

def Tallies (system : System) (input : Hal × SystemOp) : Prop :=
  ¬ system.kernel.Injects input.2.work ∧ system.kernel.nextEndpointId ≠ 0xFFFFFFFFFFFFFFFF

-- The queues before and after a call.
def change (system : System) (input : Hal × SystemOp) : List (Mailboxes × Mailboxes) :=
  [(system.kernel.mail, (system.step input).kernel.mail)]

lemma ledger_step (changes : List (Mailboxes × Mailboxes)) (system : System) (input : Hal × SystemOp)
    (hled : Ledger (Mailboxes.received changes) (longest changes)
      (receivedCount changes) system.kernel.mail) (ht : system.Tallies input) :
    Ledger (Mailboxes.received (changes ++ system.change input))
      (longest (changes ++ system.change input))
      (receivedCount (changes ++ system.change input)) (system.step input).kernel.mail := by
  have hs := system.kernel.performWork_mail input.1 (system.uptimeNanos input.1) input.2.work
  rw [← (system.step_eq input.1 input.2).1, eq_false ht.1] at hs
  have ha := hled.steps ht.2 hs
  have hr : Mailboxes.received (changes ++ system.change input) = fun eid =>
      Mailboxes.received changes eid ++
        Mailboxes.enqueued (system.kernel.mail, (system.step input).kernel.mail) eid := by
    funext eid
    simp [Mailboxes.received, change]
  have hl : longest (changes ++ system.change input) = fun eid =>
      max (longest changes eid) ((system.step input).kernel.mail.queue eid).length := by
    funext eid
    simp [longest, change]
  have hc : receivedCount (changes ++ system.change input) =
      receivedCount changes +
        enqueuedCount (system.kernel.mail, (system.step input).kernel.mail) := by
    simp [receivedCount, change]
  rw [hr, hl, hc]
  exact ha

-- As long as nothing is injected, the metrics tell what the queues held.
theorem accounting_of_run (boot : Hal) (inputs : List (Hal × SystemOp))
    (htallies : Run.Along step Tallies (System.new boot) inputs) :
    let changes := Run.observed step change (System.new boot) inputs
    let kernel := (Run.run step (System.new boot) inputs).kernel
    (∀ (eid : EndpointId) (endpoint : Endpoint), kernel.endpoints[eid]? = some endpoint →
        endpoint.Counted (Mailboxes.received changes eid) (longest changes eid)) ∧
      kernel.totalIpcCount = UInt64.ofNat (receivedCount changes) := by
  have hi : Ledger (Mailboxes.received []) (longest []) (receivedCount [])
      (System.new boot).kernel.mail := by
    refine ⟨fun _ _ hg => ?_, fun _ _ hg => ?_, fun _ _ => ⟨rfl, rfl⟩, rfl⟩
    · simp [KernelCore.mail, System.new, KernelCore.new] at hg
    · simp [KernelCore.mail, System.new, KernelCore.new] at hg
  have hled := Run.run_observed_invariant step Tallies change
    (fun changes system => Ledger (Mailboxes.received changes) (longest changes)
      (receivedCount changes) system.kernel.mail) ledger_step hi htallies
  exact ⟨hled.counted, hled.total⟩

theorem accounting_of_selfSend :
    Run.Along step Tallies (System.new (.unsupported 0)) (selfSend [1]) ∧
      (Run.run step (System.new (.unsupported 0)) (selfSend [1])).kernel.totalIpcCount =
        UInt64.ofNat (receivedCount
          (Run.observed step change (System.new (.unsupported 0)) (selfSend [1]))) := by
  have ht : Run.Along step Tallies (System.new (.unsupported 0)) (selfSend [1]) := by
    refine ⟨⟨id, ?_⟩, ⟨id, ?_⟩, ⟨id, ?_⟩, trivial⟩
    all_goals decide +kernel
  exact ⟨ht, (accounting_of_run _ _ ht).2⟩

theorem injected_not_counted :
    let inputs : List (Hal × SystemOp) := [(.unsupported 0, .RegisterProcess "init"),
      (.unsupported 0, .CreateEndpoint 1), (.unsupported 0, .InjectToInit 7 [1])]
    let system := Run.run step (System.new (.unsupported 0)) inputs
    (system.kernel.endpoints[(1 : EndpointId)]?.map fun endpoint =>
        (endpoint.pendingMessages.length, endpoint.metrics.queueDepth,
          endpoint.metrics.totalMessages)) = some (1, 0, 0) ∧
      system.kernel.totalIpcCount = 0 := by
  decide +kernel

end System

end ZeroOS
