import ZeroOS.Lib.Custody
import ZeroOS.Vfs.Json
import ZeroOS.Vfs.World

/-!
Every request that is admitted is answered once, to its requester, whatever the results of its
storage calls are and in whatever order they arrive.
-/

namespace ZeroOS.Vfs

open List BTreeMap Function Option

namespace World

-- A request is in the custody of the calls in flight until its response is sent.

def ownerOf (flights : BTreeMap UInt32 Flight) (id : UInt32) : Option Nat :=
  flights[id]?.map Flight.owner

def custody (world : World) : Custody UInt32 Nat Effect :=
  ⟨ownerOf world.flights, world.responses⟩

def responsesTo (world : World) (token : Nat) : List Effect := world.custody.receiptsOf token

def Answers (msg : AppMessage) (effect : Effect) : Prop :=
  ∃ response, Addressed msg.client (responseTag msg.tag) response effect

structure Conserved (world : World) : Prop where
  room : world.service.pendingOps.size ≤ MAX_PENDING_OPS
  owners : ∀ id token, world.custody.owner id = some token → token ∈ world.admitted
  known : ∀ token ∈ world.admitted, token < world.requests.length
  named : ∀ response ∈ world.responses, response.1 < world.requests.length
  failures : ∀ failure ∈ world.failed,
    failure.1 < world.requests.length ∧ failure.1 ∉ world.admitted
  standing : ∀ token ∈ world.admitted, ∃ msg, world.requests[token]? = some msg ∧
    Custody.Standing world.custody (Answers msg) token

section

variable {serde : Serde} {world next : World}

lemma ownerOf_insert {flights : BTreeMap UInt32 Flight} {id : UInt32} :
    ownerOf (flights.insert id flight) = update (ownerOf flights) id (some flight.owner) := by
  funext other
  rw [ownerOf, get_insert, update_apply]
  by_cases he : id = other
  · rw [if_pos he, if_pos he.symm, map_some]
  · rw [if_neg he, if_neg (Ne.symm he), ownerOf]

lemma ownerOf_erase {flights : BTreeMap UInt32 Flight} {id : UInt32} :
    ownerOf (flights.erase id) = update (ownerOf flights) id none := by
  funext other
  rw [ownerOf, get_erase, update_apply]
  by_cases he : id = other
  · rw [if_pos he, if_pos he.symm, map_none]
  · rw [if_neg he, if_neg (Ne.symm he), ownerOf]

lemma custody_owner {id : UInt32} (hf : world.flights[id]? = some flight) :
    world.custody.owner id = some flight.owner := by
  simp only [custody, ownerOf, hf, map_some]

lemma custody_free {id : UInt32} (hf : id ∉ world.flights) : world.custody.owner id = none := by
  simp only [custody, ownerOf, not_mem_iff.mp hf, map_none]

lemma ownerOf_answer {id : UInt32} (hf : world.flights[id]? = some ⟨owner, call, none⟩) :
    ownerOf (world.flights.insert id ⟨owner, call, answer⟩) = ownerOf world.flights := by
  rw [ownerOf_insert]
  exact update_eq_self_iff.mpr (custody_owner hf).symm

section

variable (hcons : Conserved world)

include hcons

lemma Conserved.not_admitted : world.requests.length ∉ world.admitted :=
  fun he => Nat.lt_irrefl _ (hcons.known _ he)

lemma Conserved.congr (ho : next.service.pendingOps.size ≤ MAX_PENDING_OPS)
    (hw : ownerOf next.flights = ownerOf world.flights)
    (hs : next.responses = world.responses) (hr : next.requests = world.requests)
    (hadm : next.admitted = world.admitted) (hf : next.failed = world.failed) : Conserved next := by
  have hc : next.custody = world.custody := by rw [custody, custody, hw, hs]
  refine ⟨ho, ?_, ?_, ?_, ?_, ?_⟩
  · rw [hc, hadm]
    exact hcons.owners
  · rw [hadm, hr]
    exact hcons.known
  · rw [hs, hr]
    exact hcons.named
  · rw [hf, hr, hadm]
    exact hcons.failures
  · rw [hadm, hr, hc]
    exact hcons.standing

-- A request that has arrived and is not admitted.

lemma Conserved.arrive (msg : AppMessage) :
    Conserved { world with requests := world.requests ++ [msg] } := by
  have hl : ∀ {token}, token < world.requests.length →
      token < (world.requests ++ [msg]).length := by
    intro token ht
    rw [length_append]
    exact Nat.lt_add_right _ ht
  refine ⟨hcons.room, hcons.owners, ?_, ?_, ?_, ?_⟩
  · exact fun token he => hl (hcons.known _ he)
  · exact fun resp he => hl (hcons.named _ he)
  · intro failure he
    obtain ⟨ht, hn⟩ := hcons.failures failure he
    exact ⟨hl ht, hn⟩
  · intro token he
    obtain ⟨asked, hreq, hs⟩ := hcons.standing token he
    exact ⟨asked, requests_append hreq [msg], hs⟩

lemma Conserved.fail (hl : token < world.requests.length) (hn : token ∉ world.admitted)
    (errors : List AppError) :
    Conserved { world with failed := world.failed ++ errors.map fun e => (token, e) } := by
  refine ⟨hcons.room, hcons.owners, hcons.known, hcons.named, ?_, hcons.standing⟩
  intro failure he
  obtain ho | hne := mem_append.mp he
  · exact hcons.failures _ ho
  · obtain ⟨e, _, rfl⟩ := mem_map.mp hne
    exact ⟨hl, hn⟩

lemma Conserved.reject (hl : token < world.requests.length) (hn : token ∉ world.admitted)
    (effect : Effect) :
    Conserved { world with responses := world.responses ++ [(token, effect)] } := by
  refine ⟨hcons.room, hcons.owners, hcons.known, ?_, hcons.failures, ?_⟩
  · intro resp he
    obtain ho | hne := mem_append.mp he
    · exact hcons.named _ ho
    · rw [mem_singleton.mp hne]
      exact hl
  · intro other he
    obtain ⟨asked, hreq, hs⟩ := hcons.standing other he
    refine ⟨asked, hreq, hs.note_other ?_⟩
    rintro rfl
    exact hn he

lemma Conserved.accept {id : UInt32} (hf : id ∉ world.flights)
    (hro : next.service.pendingOps.size ≤ MAX_PENDING_OPS)
    (hc : next.custody = world.custody.issue id world.requests.length)
    (hr : next.requests = world.requests ++ [msg])
    (hadm : next.admitted = world.admitted ++ [world.requests.length])
    (hfa : next.failed = world.failed) : Conserved next := by
  have ha := hcons.arrive msg
  have hs : next.responses = world.responses := congrArg Custody.receipts hc
  refine ⟨hro, ?_, ?_, ?_, ?_, ?_⟩
  · intro other token hown
    rw [hc, Custody.issue_owner] at hown
    rw [hadm, mem_append, mem_singleton]
    split at hown
    · cases hown
      exact .inr rfl
    · exact .inl (hcons.owners _ _ hown)
  · intro token he
    rw [hadm, mem_append, mem_singleton] at he
    rw [hr]
    obtain ho | rfl := he
    · exact ha.known _ ho
    · simp
  · rw [hs, hr]
    exact ha.named
  · intro failure he
    rw [hfa] at he
    obtain ⟨hl, hn⟩ := hcons.failures failure he
    rw [hr, hadm, mem_append, mem_singleton]
    refine ⟨(ha.failures _ he).1, ?_⟩
    rintro (ho | hq)
    · exact hn ho
    · exact Nat.ne_of_lt hl hq
  · intro token he
    rw [hadm, mem_append, mem_singleton] at he
    rw [hr, hc]
    obtain ho | rfl := he
    · obtain ⟨asked, hreq, ht⟩ := ha.standing token ho
      have hne : world.requests.length ≠ token := Nat.ne_of_gt (hcons.known _ ho)
      exact ⟨asked, hreq, ht.issue_other hne (custody_free hf)⟩
    · refine ⟨msg, by simp, Custody.standing_issue ?_ ?_⟩
      · exact fun place hown => hcons.not_admitted (hcons.owners _ _ hown)
      · exact Custody.receiptsOf_eq_nil fun resp he => Nat.ne_of_lt (hcons.named _ he)

-- A result comes in: the request is passed on to another call, or answered.

lemma Conserved.pass {id place : UInt32} (hown : world.custody.owner id = some owner)
    (hf : place ∉ world.flights) (hro : next.service.pendingOps.size ≤ MAX_PENDING_OPS)
    (hc : next.custody = world.custody.pass id place owner)
    (hr : next.requests = world.requests) (hadm : next.admitted = world.admitted)
    (ha : next.failed = world.failed) : Conserved next := by
  have hrs : next.responses = world.responses := congrArg Custody.receipts hc
  refine ⟨hro, ?_, ?_, ?_, ?_, ?_⟩
  · intro other token ho
    rw [hc, Custody.pass_owner] at ho
    rw [hadm]
    split_ifs at ho
    · cases ho
      exact hcons.owners id _ hown
    · exact hcons.owners _ _ ho
  · rw [hadm, hr]
    exact hcons.known
  · rw [hrs, hr]
    exact hcons.named
  · rw [ha, hr, hadm]
    exact hcons.failures
  · intro token hme
    rw [hadm] at hme
    rw [hr, hc]
    obtain ⟨asked, hreq, hs⟩ := hcons.standing token hme
    refine ⟨asked, hreq, ?_⟩
    by_cases he : owner = token
    · subst he
      exact hs.pass_self hown
    · exact hs.pass_other he hown (custody_free hf)

lemma Conserved.settle {id : UInt32} (hown : world.custody.owner id = some owner)
    (hreq : world.requests[owner]? = some msg) (ha : Answers msg effect)
    (hro : next.service.pendingOps.size ≤ MAX_PENDING_OPS)
    (hc : next.custody = world.custody.settle id owner effect)
    (hr : next.requests = world.requests) (hadm : next.admitted = world.admitted)
    (hf : next.failed = world.failed) : Conserved next := by
  have hrs : next.responses = world.responses ++ [(owner, effect)] := congrArg Custody.receipts hc
  have hmm := hcons.owners id owner hown
  refine ⟨hro, ?_, ?_, ?_, ?_, ?_⟩
  · intro other token ho
    rw [hc, Custody.settle_owner] at ho
    rw [hadm]
    split_ifs at ho
    exact hcons.owners _ _ ho
  · rw [hadm, hr]
    exact hcons.known
  · intro resp hme
    rw [hrs, mem_append, mem_singleton] at hme
    rw [hr]
    obtain hl | rfl := hme
    · exact hcons.named _ hl
    · exact hcons.known _ hmm
  · rw [hf, hr, hadm]
    exact hcons.failures
  · intro token hme
    rw [hadm] at hme
    rw [hr, hc]
    obtain ⟨asked, has, hs⟩ := hcons.standing token hme
    refine ⟨asked, has, ?_⟩
    by_cases he : owner = token
    · subst he
      rw [hreq] at has
      cases has
      exact hs.settle_self hown ha
    · exact hs.settle_other he hown

lemma Conserved.not_refused {id : UInt32} (hop : world.service.pendingOps[id]? = some op)
    (ha : Accepting (.Deliver sys id)) :
    ¬ VfsService.Refused sys ⟨world.service.pendingOps.erase id⟩ 0 call := by
  rintro (hf | ⟨_, hc⟩)
  · exact Nat.not_le.mpr (size_erase_lt hop hcons.room) hf
  · obtain ⟨next, hn⟩ := ha 0 call
    rw [hn] at hc
    cases hc

end

lemma Moves.conserved (hv : Moves serde world event next) (hc : Accepting event)
    (hcons : Conserved world) : Conserved next := by
  cases hv with
  | @ignored sys msg errors =>
    have ha := hcons.arrive msg
    exact ha.fail (by simp) hcons.not_admitted errors
  | @rejected sys msg resp =>
    have ha := hcons.arrive msg
    exact ha.reject (by simp) hcons.not_admitted _
  | admitted _ hr hf =>
    refine hcons.accept hf (size_insert_le _ hr) ?_ rfl rfl rfl
    rw [custody, ownerOf_insert]
    rfl
  | idle => exact hcons
  | succeeded _ hl | answered _ _ hl =>
    exact hcons.congr hcons.room (ownerOf_answer hl) rfl rfl rfl rfl
  | responded hs _ hd =>
    have hr := size_erase_lt hs.pending hcons.room
    refine hcons.settle (custody_owner hs.issued) hs.requested
      ⟨_, hd⟩ (Nat.le_of_lt hr) ?_ rfl rfl rfl
    rw [custody, ownerOf_erase]
    rfl
  | continued hs _ _ _ hr hf =>
    refine hcons.pass (custody_owner hs.issued) hf (size_insert_le _ hr) ?_
      rfl rfl rfl
    rw [custody, ownerOf_insert, ownerOf_erase]
    rfl
  | aborted e hs _ he =>
    exact absurd he (hcons.not_refused hs.pending hc)

lemma start_conserved (store : Store) : Conserved (start store) := by
  refine ⟨by simp [start], ?_, ?_, ?_, ?_, ?_⟩
  all_goals simp [start, custody, ownerOf]

-- What is on record is never taken back.
structure Extends (world next : World) : Prop where
  requests : world.requests <+: next.requests
  admitted : world.admitted <+: next.admitted
  responses : world.responses <+: next.responses

lemma Extends.refl (world : World) : Extends world world :=
  ⟨prefix_refl _, prefix_refl _, prefix_refl _⟩

lemma Extends.trans (hf : Extends world next) (hs : Extends next last) : Extends world last :=
  ⟨hf.requests.trans hs.requests, hf.admitted.trans hs.admitted, hf.responses.trans hs.responses⟩

lemma Moves.extends (hv : Moves serde world event next) : Extends world next := by
  cases hv with
  | ignored => exact ⟨prefix_append .., prefix_refl _, prefix_refl _⟩
  | rejected => exact ⟨prefix_append .., prefix_refl _, prefix_append ..⟩
  | admitted => exact ⟨prefix_append .., prefix_append .., prefix_refl _⟩
  | responded => exact ⟨prefix_refl _, prefix_refl _, prefix_append ..⟩
  | idle => exact .refl world
  | _ => exact ⟨prefix_refl _, prefix_refl _, prefix_refl _⟩

lemma Extends.responsesTo (he : Extends world next) (token : Nat) :
    world.responsesTo token <+: next.responsesTo token :=
  (he.responses.filter _).map _

lemma Moves.keeps (hv : Moves serde world event next) {id : UInt32}
    (hown : world.custody.owner id = some owner) (hop : world.service.pendingOps[id]? = some op)
    (hno : ¬ Delivers world event id) :
    next.custody.owner id = some owner ∧ next.service.pendingOps[id]? = some op := by
  have hn : ∀ {other}, other ∉ world.flights → other ≠ id := by
    rintro other hf rfl
    rw [custody_free hf] at hown
    cases hown
  have he : ∀ {sys other op flight msg kind data}, event = .Deliver sys other →
      flight.answer = some (kind, data) → Serves serde world other op flight msg →
      other ≠ id := by
    rintro sys other op ⟨_, _, _⟩ msg kind data hev rfl hs rfl
    exact hno ⟨sys, _, _, _, hev, hs.issued⟩
  cases hv with
  | ignored | rejected | idle => exact ⟨hown, hop⟩
  | admitted _ _ hf =>
    refine ⟨?_, (get_insert_ne (hn hf)).trans hop⟩
    simp only [custody, ownerOf, get_insert_ne (hn hf)]
    exact hown
  | succeeded _ hl | answered _ _ hl =>
    exact ⟨(congrFun (ownerOf_answer hl) id).trans hown, hop⟩
  | responded hs | aborted e hs =>
    have ho := he rfl rfl hs
    refine ⟨?_, (get_erase_ne _ ho).trans hop⟩
    simp only [custody, ownerOf, get_erase_ne _ ho]
    exact hown
  | continued hs _ _ _ _ hf =>
    have ho := he rfl rfl hs
    have hp := hn hf
    simp only [custody, ownerOf, get_insert_ne hp, get_erase_ne _ ho]
    exact ⟨hown, hop⟩

end

section

variable (serde : Serde) (store : Store) (events : Nat → Event)

-- The worlds that a sequence of events leads through.
def worldAt : Nat → World := Run.trace (step serde) (start store) events

-- Every call that was issued is answered at some time.
def AllAnswered : Prop :=
  ∀ n id, id ∈ (worldAt serde store events n).flights →
    ∃ m ≥ n, Delivers (worldAt serde store events m) (events m) id

variable {serde store events}
variable (hcoop : ∀ n, Cooperative (worldAt serde store events n) (events n))

include hcoop

lemma worldAt_conserved (n : Nat) :
    Sound serde (worldAt serde store events n) ∧ Conserved (worldAt serde store events n) := by
  refine Run.trace_invariant (step serde) Cooperative
    (fun world => Sound serde world ∧ Conserved world) ?_
    ⟨start_sound _, start_conserved _⟩ hcoop
  rintro world event ⟨hs, hcons⟩ ⟨hu, hf, ha⟩
  have hv := step_moves hs hu hf
  exact ⟨hv.sound hs, hv.conserved ha hcons⟩

lemma worldAt_moves (n : Nat) :
    Moves serde (worldAt serde store events n) (events n) (worldAt serde store events (n + 1)) :=
  step_moves (worldAt_conserved hcoop n).1 (hcoop n).unforged (hcoop n).fresh

lemma worldAt_extends (hm : m ≥ n) :
    Extends (worldAt serde store events n) (worldAt serde store events m) := by
  obtain ⟨k, rfl⟩ := Nat.exists_eq_add_of_le hm
  clear hm
  induction k with
  | zero => exact .refl _
  | succ k ih => exact ih.trans (worldAt_moves hcoop (n + k)).extends

section

variable {id : UInt32} (hans : AllAnswered serde store events)
  (hown : (worldAt serde store events n).custody.owner id = some token)
  (hop : (worldAt serde store events n).service.pendingOps[id]? = some op)

include hans hown hop

lemma exists_delivery :
    ∃ m ≥ n, Delivers (worldAt serde store events m) (events m) id ∧
      (worldAt serde store events m).custody.owner id = some token ∧
      (worldAt serde store events m).service.pendingOps[id]? = some op := by
  have he : id ∈ (worldAt serde store events n).flights := by
    rw [mem_iff]
    obtain ⟨flight, hf, _⟩ := map_eq_some_iff.mp hown
    exact ⟨flight, hf⟩
  obtain ⟨m, hm, hd⟩ := hans n id he
  obtain ⟨d, rfl⟩ := Nat.exists_eq_add_of_le hm
  clear he hm
  -- Induction on the time that is left.
  induction d generalizing n with
  | zero => exact ⟨n, Nat.le_refl n, hd, hown, hop⟩
  | succ d ih =>
    by_cases hn : Delivers (worldAt serde store events n) (events n) id
    · exact ⟨n, Nat.le_refl n, hn, hown, hop⟩
    · obtain ⟨hl, hw⟩ := (worldAt_moves hcoop n).keeps hown hop hn
      rw [← Nat.succ_add_eq_add_succ] at hd
      obtain ⟨m, hm, hr⟩ := ih hl hw hd
      exact ⟨m, Nat.le_of_succ_le hm, hr⟩

lemma eventually_answered : ∃ m ≥ n, (worldAt serde store events m).responsesTo token ≠ [] := by
  induction ht : stagesLeft op using Nat.strongRecOn generalizing n id op with
  | ind _ ih =>
    obtain ⟨m, hm, hd, hh, hw⟩ := exists_delivery hcoop hans hown hop
    have hcons := (worldAt_conserved hcoop m).2
    have hc := (hcoop m).accepting
    have hv := worldAt_moves hcoop m
    have he := hd
    obtain ⟨_, _, _, _, hev, _⟩ := he
    rw [hev] at hv hc hd
    generalize hn : worldAt serde store events (m + 1) = next at hv
    cases hv with
    | idle hi => exact absurd hd (hi id)
    | responded hs =>
      have ha := (custody_owner hs.issued).symm.trans hh
      cases ha
      refine ⟨m + 1, Nat.le_succ_of_le hm, ?_⟩
      rw [hn]
      simp [responsesTo, Custody.receiptsOf, custody]
    | @continued _ _ place owner _ _ _ nextOp _ _ _ hs _ _ hl _ _ =>
      have ha := (custody_owner hs.issued).symm.trans hh
      cases ha
      have hb := hs.pending.symm.trans hw
      cases hb
      rw [ht] at hl
      have hp : (worldAt serde store events (m + 1)).custody.owner place = some owner := by
        rw [hn]
        simp [custody, ownerOf]
      have hpl : (worldAt serde store events (m + 1)).service.pendingOps[place]? = some nextOp := by
        rw [hn]
        simp
      obtain ⟨last, hla, hresp⟩ := ih _ hl hp hpl rfl
      exact ⟨last, Nat.le_trans (Nat.le_succ_of_le hm) hla, hresp⟩
    | aborted e hs _ hr =>
      exact absurd hr (hcons.not_refused hs.pending hc)

end

section

variable (hreq : (worldAt serde store events n).requests[token]? = some msg)
  (hadm : token ∈ (worldAt serde store events n).admitted) (hm : m ≥ n)
  (hresp : (worldAt serde store events m).responsesTo token ≠ [])

include hreq hadm hm hresp

lemma answered_once :
    ∃ effect, Answers msg effect ∧ (worldAt serde store events m).responsesTo token = [effect] := by
  have he := worldAt_extends hcoop hm
  have hcons := (worldAt_conserved hcoop m).2
  obtain ⟨_, ha, ht⟩ := hcons.standing token (he.admitted.subset hadm)
  obtain ⟨later, hl⟩ := he.requests
  have hs := requests_append hreq later
  rw [hl, ha] at hs
  cases hs
  exact ht.of_receipt hresp

lemma answered_forever :
    ∃ effect, Answers msg effect ∧
      ∀ k ≥ m, (worldAt serde store events k).responsesTo token = [effect] := by
  obtain ⟨effect, ha, ho⟩ := answered_once hcoop hreq hadm hm hresp
  refine ⟨effect, ha, ?_⟩
  intro k hk
  have hg := (worldAt_extends hcoop hk).responsesTo token
  rw [ho] at hg
  have hs : (worldAt serde store events k).responsesTo token ≠ [] := by
    intro hn
    rw [hn, prefix_nil] at hg
    cases hg
  obtain ⟨_, _, ht⟩ := answered_once hcoop hreq hadm (Nat.le_trans hm hk) hs
  rw [ht] at hg ⊢
  rw [hg.eq_of_length rfl]

end

lemma admitted_answered (hans : AllAnswered serde store events)
    (hadm : token ∈ (worldAt serde store events n).admitted) :
    ∃ msg effect, (worldAt serde store events n).requests[token]? = some msg ∧ Answers msg effect ∧
      ∃ m, ∀ k ≥ m, (worldAt serde store events k).responsesTo token = [effect] := by
  obtain ⟨hs, hcons⟩ := worldAt_conserved hcoop n
  obtain ⟨msg, hreq, ht⟩ := hcons.standing token hadm
  -- Some time the request has a response.
  have hresp : ∃ m ≥ n, (worldAt serde store events m).responsesTo token ≠ [] := by
    cases ht with
    | @held id hown _ _ =>
      obtain ⟨_, hf, _⟩ := map_eq_some_iff.mp hown
      obtain ⟨_, _, hr⟩ := hs.serves hf
      exact eventually_answered hcoop hans hown hr.pending
    | settled _ _ ho => exact ⟨n, Nat.le_refl n, by rw [responsesTo, ho]; simp⟩
  obtain ⟨m, hm, hso⟩ := hresp
  obtain ⟨effect, ha, hfo⟩ := answered_forever hcoop hreq hadm hm hso
  exact ⟨msg, effect, hreq, ha, m, hfo⟩

theorem operations_conserved :
    (∀ n, (worldAt serde store events n).service.pendingOps.size ≤ MAX_PENDING_OPS) ∧
    (∀ n token e, (token, e) ∈ (worldAt serde store events n).failed →
      token ∉ (worldAt serde store events n).admitted) ∧
    (AllAnswered serde store events → ∀ n, ∀ token ∈ (worldAt serde store events n).admitted,
      ∃ msg effect, (worldAt serde store events n).requests[token]? = some msg ∧
        Answers msg effect ∧
        ∃ m, ∀ k ≥ m, (worldAt serde store events k).responsesTo token = [effect]) := by
  refine ⟨fun n => (worldAt_conserved hcoop n).2.room, ?_, ?_⟩
  · intro n token e he
    exact ((worldAt_conserved hcoop n).2.failures _ he).2
  · intro hans n token hadm
    exact admitted_answered hcoop hans hadm

end

-- Two clients ask, the second before the first is answered, and is answered first. After that
-- nothing happens.

def askExists (pid : UInt32) (path : String) : AppMessage where
  tag := MSG_VFS_EXISTS
  fromPid := pid
  capSlots := [4]
  data := VfsJson.pathRequest.encode ⟨path⟩

def twoRequests : Nat → Event
  | 0 => .Receive (VfsJson.nextId 1) (askExists 10 "/x")
  | 1 => .Receive (VfsJson.nextId 2) (askExists 11 "/y")
  | 2 => .Execute 2 (.Succeeds [])
  | 3 => .Execute 1 (.Succeeds [])
  | 4 => .Deliver (VfsJson.nextId 3) 2
  | 5 => .Deliver (VfsJson.nextId 4) 1
  | _ => .Execute 0 (.Succeeds [])

def twoWorld : Nat → World := worldAt VfsJson.serde (fun _ => none) twoRequests

lemma twoWorld_rest : (twoWorld (n + 6)).flights = ∅ := by
  induction n with
  | zero =>
    have he : (twoWorld 6).flights.isEmpty = true := by decide +kernel
    exact Std.ExtTreeMap.isEmpty_iff.mp he
  | succ n ih =>
    have hs : twoWorld (n + 1 + 6) = (twoWorld (n + 6)).execute 0 (.Succeeds []) := rfl
    have hn : (twoWorld (n + 6)).flights[(0 : UInt32)]? = none := by simp [ih]
    rw [hs, execute, hn]
    exact ih

lemma twoRequests_cooperative (n : Nat) : Cooperative (twoWorld n) (twoRequests n) := by
  match n with
  | 0 | 1 =>
    refine ⟨show MSG_VFS_EXISTS ≠ MSG_STORAGE_RESULT by decide, ?_, fun _ _ => ⟨_, rfl⟩⟩
    rintro _ _ _ ⟨⟩
    decide +kernel
  | 2 | 3 | _ + 6 => exact ⟨trivial, trivial, trivial⟩
  | 4 | 5 =>
    refine ⟨trivial, ?_, fun _ _ => ⟨_, rfl⟩⟩
    rintro _ _ _ ⟨⟩
    decide +kernel

lemma twoRequests_answered : AllAnswered VfsJson.serde (fun _ => none) twoRequests := by
  have hk : ∀ n < 6, (twoWorld n).flights.keys.all (fun id => id = 1 ∨ id = 2 ∧ n ≤ 4) = true := by
    decide +kernel
  intro n id hi
  by_cases hn : n < 6
  · have hm := all_eq_true.mp (hk n hn) id (Std.ExtTreeMap.mem_keys.mpr hi)
    obtain rfl | ⟨rfl, hn⟩ := of_decide_eq_true hm
    · refine ⟨5, Nat.le_of_lt_succ hn, VfsJson.nextId 4, 0, .Exists (inodeKey "/x"),
        (StorageResult.EXISTS_OK, [0]), rfl, ?_⟩
      decide +kernel
    · refine ⟨4, hn, VfsJson.nextId 3, 1, .Exists (inodeKey "/y"),
        (StorageResult.EXISTS_OK, [0]), rfl, ?_⟩
      decide +kernel
  · obtain ⟨n, rfl⟩ := Nat.exists_eq_add_of_le' (Nat.le_of_not_lt hn)
    have hs : id ∈ (twoWorld (n + 6)).flights := hi
    rw [twoWorld_rest] at hs
    simp at hs

theorem operations_conserved_twoRequests :
    (twoWorld 2).admitted = [0, 1] ∧ ∃ first second m, ∀ k ≥ m,
      (twoWorld k).responsesTo 0 = [first] ∧ (twoWorld k).responsesTo 1 = [second] := by
  have ha : (twoWorld 2).admitted = [0, 1] := by decide +kernel
  have hc := (operations_conserved twoRequests_cooperative).2.2 twoRequests_answered 2
  obtain ⟨_, first, _, _, m, hf⟩ := hc 0 (ha ▸ mem_cons_self)
  obtain ⟨_, second, _, _, n, hs⟩ := hc 1 (ha ▸ mem_cons_of_mem _ mem_cons_self)
  exact ⟨ha, first, second, max m n, fun k hk =>
    ⟨hf k (Nat.le_trans (Nat.le_max_left ..) hk), hs k (Nat.le_trans (Nat.le_max_right ..) hk)⟩⟩

end World

end ZeroOS.Vfs
