import ZeroOS.Vfs.Conservation

/-!
Which requests the file system service answers at all.
-/

namespace ZeroOS.Vfs.World

open VfsService Custody

def requestTags : List UInt32 :=
  [MSG_VFS_MKDIR, MSG_VFS_RMDIR, MSG_VFS_READDIR, MSG_VFS_WRITE, MSG_VFS_READ, MSG_VFS_UNLINK,
    MSG_VFS_STAT, MSG_VFS_EXISTS]

lemma withRequest_ne_done (hb : ∀ req, body req ≠ .Done) :
    withRequest msg tag respond parsed pathOf body ≠ .Done := by
  unfold withRequest
  cases parsed with
  | error => nofun
  | ok req =>
    dsimp only
    split
    · nofun
    · exact hb req

lemma handleRequest_ne_done (serde : Serde) (hk : msg.tag ∈ requestTags) :
    handleRequest serde msg ≠ .Done := by
  unfold handleRequest
  split_ifs
  on_goal 9 => simp_all [requestTags]
  -- Only a write is looked at once more before it begins.
  on_goal 4 =>
    refine withRequest_ne_done fun req => ?_
    dsimp only
    split_ifs
    all_goals nofun
  all_goals exact withRequest_ne_done fun _ => nofun

-- A request that is not admitted gets no response later than at its arrival.
lemma Moves.settled (hm : Moves serde world event next) (hc : Conserved world)
    (hl : token < world.requests.length) (hn : token ∉ world.admitted) :
    next.responsesTo token = world.responsesTo token ∧ token ∉ next.admitted := by
  have he : world.requests.length ≠ token := Nat.ne_of_gt hl
  cases hm with
  | ignored | idle | succeeded | answered | continued | aborted => exact ⟨rfl, hn⟩
  | rejected => exact ⟨by simp [responsesTo, custody, receiptsOf, he], hn⟩
  | admitted => exact ⟨rfl, by simp [hn, he.symm]⟩
  | @responded _ id owner _ _ _ _ _ _ effect hs =>
    have ho : owner ≠ token := by
      rintro rfl
      exact hn (hc.owners id owner (custody_owner hs.issued))
    exact ⟨by simp [responsesTo, custody, receiptsOf, ho], hn⟩

section

variable {serde : Serde} {store : Store} {events : Nat → Event}
variable (hcoop : ∀ n, Cooperative (worldAt serde store events n) (events n))

include hcoop

lemma settled_forever (hl : token < (worldAt serde store events n).requests.length)
    (hn : token ∉ (worldAt serde store events n).admitted) (hk : k ≥ n) :
    (worldAt serde store events k).responsesTo token =
      (worldAt serde store events n).responsesTo token := by
  have hr : ∀ d, token ∉ (worldAt serde store events (n + d)).admitted ∧
      (worldAt serde store events (n + d)).responsesTo token =
        (worldAt serde store events n).responsesTo token := by
    intro d
    induction d with
    | zero => exact ⟨hn, rfl⟩
    | succ d ih =>
      have hx := worldAt_extends hcoop (Nat.le_add_right n d)
      have hkn := Nat.lt_of_lt_of_le hl hx.requests.length_le
      obtain ⟨hs, he⟩ := (worldAt_moves hcoop (n + d)).settled
        (worldAt_conserved hcoop (n + d)).2 hkn ih.1
      exact ⟨he, hs.trans ih.2⟩
  obtain ⟨d, rfl⟩ := Nat.exists_eq_add_of_le hk
  exact (hr d).2

-- With room for it and storage calls that are accepted, a request is answered exactly once.
theorem request_answered (hanswered : AllAnswered serde store events) {sys : Syscalls}
    (hevent : events n = .Receive sys msg) (hknown : msg.tag ∈ requestTags)
    (hroom : (worldAt serde store events n).service.pendingOps.size < MAX_PENDING_OPS) :
    ∃ effect, Answers msg effect ∧ ∃ m, ∀ k ≥ m, (worldAt serde store events k).responsesTo
      (worldAt serde store events n).requests.length = [effect] := by
  obtain ⟨hu, -, ha⟩ := hcoop n
  have hc := (worldAt_conserved hcoop n).2
  have hs : worldAt serde store events (n + 1) =
      (worldAt serde store events n).receive serde sys msg :=
    congrArg (step serde (worldAt serde store events n)) hevent
  rw [hevent] at hu ha
  unfold receive at hs
  rw [onMessage, if_neg hu] at hs
  have hb := handleRequest_begins serde msg
  have hd := handleRequest_ne_done serde hknown
  generalize handleRequest serde msg = action at hb hd hs
  cases hb with
  | unknown => exact absurd rfl hd
  | rejected resp =>
    rw [perform_respondViaDebug, carryOut_ok] at hs
    have hn : (worldAt serde store events n).custody.receiptsOf
        (worldAt serde store events n).requests.length = [] :=
      receiptsOf_eq_nil fun sent hm => Nat.ne_of_lt (hc.named sent hm)
    refine ⟨_, ⟨resp, .inr rfl⟩, n + 1, fun k hk => ?_⟩
    rw [settled_forever hcoop ?_ ?_ hk]
    · rw [hs]
      have he := receiptsOf_append_self (worldAt serde store events n).custody
        (worldAt serde store events n).requests.length
        (.DebugResponse msg.fromPid (responseTag msg.tag) resp)
      rw [hn] at he
      exact he
    · rw [hs]
      simp [record]
    · rw [hs]
      exact hc.not_admitted
  | @starts call op ho =>
    obtain ⟨id, hi⟩ := ha 0 call
    rw [perform, startStorage_of_room _ _ hroom hi, carryOut_ok] at hs
    have had : (worldAt serde store events n).requests.length ∈
        (worldAt serde store events (n + 1)).admitted := by
      rw [hs]
      simp [record, issues]
    obtain ⟨asked, effect, has, han, m, hf⟩ := admitted_answered hcoop hanswered had
    rw [hs] at has
    obtain rfl : msg = asked := by simpa [record] using has
    exact ⟨effect, han, m, hf⟩

end

theorem request_answered_twoRequests :
    ∃ effect, Answers (askExists 11 "/y") effect ∧
      ∃ m, ∀ k ≥ m, (twoWorld k).responsesTo 1 = [effect] := by
  have he : twoRequests 1 = .Receive (VfsJson.nextId 2) (askExists 11 "/y") := rfl
  have hr : (twoWorld 1).service.pendingOps.size < MAX_PENDING_OPS := by decide +kernel
  have hl : (twoWorld 1).requests.length = 1 := by decide +kernel
  have ha := request_answered twoRequests_cooperative twoRequests_answered he (by decide) hr
  rw [show (worldAt VfsJson.serde (fun _ => none) twoRequests 1).requests.length = 1 from hl] at ha
  exact ha

-- The helpers that start a storage call do not know the client: when the call is refused, nobody
-- is told.
def refusedRequest : Nat → Event
  | 0 => .Receive ⟨fun _ _ => .error (-1), fun _ _ _ => .ok (), 0⟩ (askExists 10 "/x")
  | _ => .Execute 0 (.Succeeds [])

def refusedWorld : Nat → World := worldAt VfsJson.serde (fun _ => none) refusedRequest

lemma refusedWorld_silent : (refusedWorld n).flights = ∅ ∧ (refusedWorld n).responses = [] := by
  induction n with
  | zero => exact ⟨rfl, rfl⟩
  | succ n ih =>
    cases n with
    | zero =>
      have he : (refusedWorld 1).flights.isEmpty = true := by decide +kernel
      exact ⟨Std.ExtTreeMap.isEmpty_iff.mp he, by decide +kernel⟩
    | succ n =>
      have hs : refusedWorld (n + 2) = (refusedWorld (n + 1)).execute 0 (.Succeeds []) := rfl
      rw [hs, execute, ih.1]
      exact ih

theorem request_dropped : (askExists 10 "/x").tag ∈ requestTags ∧
    AllAnswered VfsJson.serde (fun _ => none) refusedRequest ∧
    ∀ k, (refusedWorld k).responsesTo 0 = [] := by
  refine ⟨by decide, ?_, ?_⟩
  · intro n id hi
    have hs : id ∈ (refusedWorld n).flights := hi
    rw [refusedWorld_silent.1] at hs
    simp at hs
  · intro k
    simp [responsesTo, receiptsOf, custody, refusedWorld_silent.2]

end ZeroOS.Vfs.World
