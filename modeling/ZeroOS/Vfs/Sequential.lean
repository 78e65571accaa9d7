import ZeroOS.Lib.Namespace
import ZeroOS.Vfs.World

/-!
Requests that are served one at a time, against a storage that carries out every call.
-/

namespace ZeroOS.Vfs

open Function BTreeMap VfsService

-- The name space that storage holds: inodes under their keys, contents beside them.

def inodeScheme : Scheme String Inode where
  root := "/"
  parent := Inode.parentPath
  directory := Inode.isDirectory
  file := Inode.isFile
  disjoint := fun _ hfile => Inode.not_isDirectory_of_isFile hfile

namespace Store

variable (store : Store) (serde : Serde)

def nameSpace : Namespace String Inode where
  node := fun path => (store (inodeKey path)).bind fun bytes => (serde.inodeFromSlice bytes).toOption
  content := fun path => (store (contentKey path)).isSome

def DirectoryAt (path : String) : Prop := inodeScheme.DirectoryAt (store.nameSpace serde) path

def FileAt (path : String) : Prop := inodeScheme.FileAt (store.nameSpace serde) path

variable {store serde}

lemma nameSpace_node (hb : store (inodeKey path) = some bytes)
    (hp : serde.inodeFromSlice bytes = .ok inode) :
    (store.nameSpace serde).node path = some inode := by
  simp only [nameSpace, hb, Option.bind_some, hp]
  rfl

-- How the name space changes with the storage.

lemma nameSpace_updateInode :
    nameSpace (update store (inodeKey path) value) serde =
      ⟨update (store.nameSpace serde).node path
        (value.bind fun bytes => (serde.inodeFromSlice bytes).toOption),
        (store.nameSpace serde).content⟩ := by
  apply Namespace.ext
  · funext other
    by_cases he : other = path
    · subst he
      simp only [nameSpace, update_self]
    · have hn : inodeKey other ≠ inodeKey path := fun hk => he (inodeKey_injective hk)
      simp only [nameSpace, update_of_ne hn, update_of_ne he]
  · funext other
    have hn : contentKey other ≠ inodeKey path := inodeKey_ne_contentKey.symm
    simp only [nameSpace, update_of_ne hn]

lemma nameSpace_updateContent :
    nameSpace (update store (contentKey path) value) serde =
      ⟨(store.nameSpace serde).node, update (store.nameSpace serde).content path value.isSome⟩ := by
  apply Namespace.ext
  · funext other
    have hn : inodeKey other ≠ contentKey path := inodeKey_ne_contentKey
    simp only [nameSpace, update_of_ne hn]
  · funext other
    by_cases he : other = path
    · subst he
      simp only [nameSpace, update_self]
    · have hn : contentKey other ≠ contentKey path := fun hk => he (contentKey_injective hk)
      simp only [nameSpace, update_of_ne hn, update_of_ne he]

end Store

def Effect.response : Effect → Option Response
  | .Storage _ _ => none
  | .Reply _ _ response => some response
  | .DebugResponse _ _ response => some response

lemma Addressed.response (ha : Addressed ctx tag resp effect) : effect.response = some resp := by
  obtain ⟨_, _, rfl⟩ | rfl := ha <;> rfl

-- What becomes of the storage, and what is answered, when the calls of an action and of those
-- that follow from it are carried out one after the other.
inductive Chain (serde : Serde) : Store → Action → Store → Option Response → Prop where
  | done {store : Store} : Chain serde store .Done store none
  | respond {store : Store} {ctx : ClientContext} {tag : UInt32} {response : Response} :
      Chain serde store (.Respond ctx tag response) store (some response)
  | respondViaDebug {store : Store} {toPid tag : UInt32} {response : Response} :
      Chain serde store (.RespondViaDebug toPid tag response) store (some response)
  | call {store final : Store} {call : StorageCall} {op : PendingOp} {outcome : Option Response}
      (now : UInt64) (listing : List UInt8)
      (hrest : Chain serde (store.after call)
        (resume serde now op (store.answer listing call).1 (store.answer listing call).2)
        final outcome) :
      Chain serde store (.Start call op) final outcome

section

variable {serde : Serde} {store final : Store} {outcome : Option Response}

lemma Chain.eq_of_respond (hc : Chain serde store (.Respond ctx tag resp) final outcome) :
    final = store := by
  cases hc
  rfl

lemma chain_putInode (hc : Chain serde store (putInode serde path inode op fail) final outcome) :
    ∃ bytes now, serde.inodeFromSlice bytes = .ok inode ∧
      Chain serde (update store (inodeKey path) (some bytes))
        (resume serde now op StorageResult.WRITE_OK []) final outcome := by
  obtain ⟨bytes, hb, hp⟩ := serde.inodeFromSlice_toVec inode
  rw [putInode, hb] at hc
  cases hc with
  | call now _ hr => exact ⟨bytes, now, hp, hr⟩

end

namespace World

-- The responses so far, each with the request that it belongs to.
def answers (world : World) : List (Nat × Option Response) :=
  world.responses.map fun (token, effect) => (token, effect.response)

-- The calls in flight are carried out and their results delivered, one by one, until there are
-- none.
inductive Settles (serde : Serde) : World → World → Prop where
  | idle {world : World} (hidle : world.flights = ∅) : Settles serde world world
  | turn {world final : World} {sys : Syscalls} {id : UInt32} {owner : Nat} {call : StorageCall}
      (listing : List UInt8) (hflight : world.flights[id]? = some ⟨owner, call, none⟩)
      (hcooperative : Cooperative (world.execute id (.Succeeds listing)) (.Deliver sys id))
      (hrest : Settles serde ((world.execute id (.Succeeds listing)).deliver serde sys id) final) :
      Settles serde world final

-- The message is received, and served to the end before the next one.
def Completes (serde : Serde) (msg : AppMessage) (world final : World) : Prop :=
  ∃ sys, Cooperative world (.Receive sys msg) ∧ Settles serde (world.receive serde sys msg) final

-- Nothing is going on.
structure Idle (serde : Serde) (world : World) : Prop where
  sound : Sound serde world
  flights : world.flights = ∅

structure Single (serde : Serde) (world : World) (id : UInt32) (token : Nat) (call : StorageCall)
    (op : PendingOp) : Prop where
  sound : Sound serde world
  flights : world.flights = (∅ : BTreeMap UInt32 Flight).insert id ⟨token, call, none⟩
  pending : world.service.pendingOps[id]? = some op

section

variable {serde : Serde} {world final : World}

lemma start_idle {store : Store} : Idle serde (start store) := ⟨start_sound _, rfl⟩

lemma Idle.pendingOps (hd : Idle serde world) : world.service.pendingOps = ∅ := by
  apply ext_get
  intro id
  obtain ⟨hn, _⟩ | ⟨_, _, _, hs⟩ := hd.sound id
  · rw [hn]
    simp
  · have hi := hs.issued
    rw [hd.flights] at hi
    simp at hi

lemma Settles.eq_of_idle (hs : Settles serde world final) (hi : world.flights = ∅) :
    final = world := by
  cases hs with
  | idle => rfl
  | turn _ hf =>
    rw [hi] at hf
    simp at hf

lemma erase_single {id : UInt32} :
    ((∅ : BTreeMap UInt32 Flight).insert id flight).erase id = ∅ := by
  rw [erase_insert]
  exact erase_of_get_none (by simp)

lemma flight_unique {flights : BTreeMap UInt32 Flight} {id : UInt32}
    (hf : flights[id]? = some ⟨token, call, some result⟩)
    (hi : flights[id]? = some ⟨owner, called, some (kind, data)⟩) :
    owner = token ∧ called = call ∧ kind = result.1 ∧ data = result.2 := by
  cases hf.symm.trans hi
  exact ⟨rfl, rfl, rfl, rfl⟩

section Single

variable {id : UInt32} {token : Nat} {call : StorageCall} {op : PendingOp}
variable (hsingle : Single serde world id token call op)
include hsingle

lemma Single.flight : world.flights[id]? = some ⟨token, call, none⟩ := by
  rw [hsingle.flights]
  simp

lemma Single.eq_of_flight {flight : Flight} (hf : world.flights[other]? = some flight) :
    other = id ∧ flight = ⟨token, call, none⟩ := by
  rw [hsingle.flights, get_insert] at hf
  split_ifs at hf with he
  · exact ⟨he.symm, (Option.some.inj hf).symm⟩
  · simp at hf

lemma Single.execute (listing : List UInt8) :
    world.execute id (.Succeeds listing) =
      { world with
        store := world.store.after call
        flights := (∅ : BTreeMap UInt32 Flight).insert id
          ⟨token, call, some (world.store.answer listing call)⟩
        history := world.history ++ [⟨token, call, (world.store.answer listing call).1,
          (world.store.answer listing call).2⟩] } := by
  have hm : world.flights.insert id ⟨token, call, some (world.store.answer listing call)⟩ =
      (∅ : BTreeMap UInt32 Flight).insert id
        ⟨token, call, some (world.store.answer listing call)⟩ := by
    rw [hsingle.flights, insert_insert]
  simp only [World.execute, hsingle.flight, hm]

lemma Single.pendingOps : world.service.pendingOps.erase id = ∅ := by
  apply ext_get
  intro other
  rw [get_erase]
  split_ifs with he
  · simp
  · obtain ⟨hn, _⟩ | ⟨_, _, _, hs⟩ := hsingle.sound other
    · rw [hn]
      simp
    · exact absurd (hsingle.eq_of_flight hs.issued).1.symm he

lemma Single.deliver (hc : Cooperative (world.execute id (.Succeeds listing)) (.Deliver sys id)) :
    let result := world.store.answer listing call
    let next := (world.execute id (.Succeeds listing)).deliver serde sys id
    next.store = world.store.after call ∧
      ((∃ ctx tag resp, resume serde sys.wallclock op result.1 result.2 = .Respond ctx tag resp ∧
          Idle serde next ∧ next.answers = world.answers ++ [(token, some resp)]) ∨
        ∃ place nextCall nextOp, resume serde sys.wallclock op result.1 result.2 =
            .Start nextCall nextOp ∧
          Single serde next place token nextCall nextOp ∧ next.answers = world.answers ∧
          stagesLeft nextOp < stagesLeft op) := by
  have hn := (execute_moves id (.Succeeds listing)).sound hsingle.sound
  have hm := deliver_moves hn hc.fresh
  have ha := hm.sound hn
  rw [hsingle.execute listing] at hm ha hc ⊢
  have hf : ((∅ : BTreeMap UInt32 Flight).insert id
      ⟨token, call, some (world.store.answer listing call)⟩)[id]? =
        some ⟨token, call, some (world.store.answer listing call)⟩ := by simp
  generalize World.deliver serde _ sys id = next at hm ha ⊢
  cases hm with
  | idle hi => exact absurd ⟨sys, token, call, _, rfl, hf⟩ (hi id)
  | @responded _ _ owner called served kind data msg resp effect hs hr
      had =>
      obtain ⟨rfl, rfl, rfl, rfl⟩ := flight_unique hf hs.issued
      cases hs.pending.symm.trans hsingle.pending
      refine ⟨rfl, .inl ⟨_, _, resp, hr, ⟨ha, erase_single⟩, ?_⟩⟩
      simp [answers, had.response]
  | @continued _ _ place owner called nextCall served nextOp kind data msg hs hr
      hw hl ho hfr =>
      obtain ⟨rfl, rfl, rfl, rfl⟩ := flight_unique hf hs.issued
      cases hs.pending.symm.trans hsingle.pending
      refine ⟨rfl, .inr ⟨place, nextCall, nextOp, hr, ⟨ha, ?_, by simp⟩, rfl, hl⟩⟩
      rw [erase_single]
  | aborted e _ _ hrf =>
    obtain hu | ⟨_, hd⟩ := hrf
    · dsimp only at hu
      rw [hsingle.pendingOps] at hu
      exact absurd hu (by decide)
    · obtain ⟨place, hp⟩ := hc.accepting 0 _
      rw [hp] at hd
      cases hd

lemma Single.settles_chain (he : Settles serde world final) :
    ∃ resp, Chain serde world.store (.Start call op) final.store (some resp) ∧
      Idle serde final ∧ final.answers = world.answers ++ [(token, some resp)] := by
  induction he generalizing id call op with
  | idle hi =>
    have hf := hsingle.flight
    rw [hi] at hf
    simp at hf
  | @turn world final sys other owner called listing hf hc ht ih =>
    obtain ⟨rfl, -⟩ := hsingle.eq_of_flight hf
    obtain ⟨hs, hn⟩ := hsingle.deliver hc
    obtain ⟨_, _, resp, hr, hi, ha⟩ | ⟨_, _, _, hr, hn, ha, _⟩ := hn
    · obtain rfl := ht.eq_of_idle hi.flights
      refine ⟨resp, .call sys.wallclock listing ?_, hi, ha⟩
      rw [hr, hs]
      exact .respond
    · obtain ⟨resp, hh, hi, hm⟩ := ih hn
      refine ⟨resp, .call sys.wallclock listing ?_, hi, ?_⟩
      · rw [hr, ← hs]
        exact hh
      · rw [hm, ha]

lemma exists_cooperative_deliver (listing : List UInt8) :
    ∃ sys, Cooperative (world.execute id (.Succeeds listing)) (.Deliver sys id) := by
  obtain ⟨place, hp⟩ : ∃ place : Int64, place.toUInt64.toUInt32 ≠ id := by
    by_cases hz : id = 0
    · exact ⟨1, by rw [hz]; decide⟩
    · exact ⟨0, fun h => hz h.symm⟩
  refine ⟨⟨fun _ _ => .ok place, fun _ _ _ => .ok (), 0⟩, trivial, ?_, fun _ _ => ⟨place, rfl⟩⟩
  rintro _ _ _ ⟨⟩
  rw [hsingle.execute listing, mem_insert]
  simp [hp]

lemma Single.exists_settles : ∃ final, Settles serde world final := by
  induction hs : stagesLeft op using Nat.strongRecOn generalizing world id call op with
  | ind _ ih =>
    obtain ⟨_, hc⟩ := exists_cooperative_deliver hsingle []
    obtain ⟨_, hn⟩ := hsingle.deliver hc
    obtain ⟨_, _, _, _, hi, _⟩ | ⟨_, _, _, _, hn, _, hl⟩ := hn
    · exact ⟨_, .turn [] hsingle.flight hc (.idle hi.flights)⟩
    · rw [hs] at hl
      obtain ⟨last, he⟩ := ih _ hl hn rfl
      exact ⟨last, .turn [] hsingle.flight hc he⟩

end Single

-- How a request begins that arrives while nothing is going on.
inductive Arrives (serde : Serde) (world : World) (next : World) : Action → Prop where
  | ignored (hidle : Idle serde next) (hanswers : next.answers = world.answers) :
      Arrives serde world next .Done
  | answered {toPid tag : UInt32} {response : Response} (hidle : Idle serde next)
      (hanswers : next.answers =
        world.answers ++ [(world.requests.length, some response)]) :
      Arrives serde world next (.RespondViaDebug toPid tag response)
  | admitted (id : UInt32) {call : StorageCall} {op : PendingOp}
      (hsingle : Single serde next id world.requests.length call op)
      (hanswers : next.answers = world.answers) : Arrives serde world next (.Start call op)

lemma Idle.receive (hd : Idle serde world) (hc : Cooperative world (.Receive sys msg)) :
    (world.receive serde sys msg).store = world.store ∧
      Arrives serde world (world.receive serde sys msg) (handleRequest serde msg) := by
  have hs := (receive_moves hc.unforged hc.fresh).sound hd.sound
  unfold World.receive at hs ⊢
  rw [onMessage, if_neg hc.unforged] at hs ⊢
  have hb := handleRequest_begins serde msg
  generalize handleRequest serde msg = action at hb hs ⊢
  cases hb with
  | unknown => exact ⟨rfl, .ignored ⟨hs, hd.flights⟩ rfl⟩
  | rejected =>
    rw [perform_respondViaDebug, carryOut_ok] at hs ⊢
    refine ⟨rfl, .answered ⟨hs, hd.flights⟩ ?_⟩
    simp [answers, record, Effect.response]
  | @starts call op ho =>
    obtain ⟨id, hi⟩ := hc.accepting 0 call
    have hr : world.service.pendingOps.size < MAX_PENDING_OPS := by
      rw [hd.pendingOps]
      decide
    rw [perform, startStorage_of_room sys _ hr hi, carryOut_ok] at hs ⊢
    refine ⟨rfl, .admitted id.toUInt64.toUInt32 ⟨hs, ?_, ?_⟩ rfl⟩
    · simp only [record, hd.flights]
    · simp [record]

lemma Completes.chain (ho : Completes serde msg world final) (hi : Idle serde world) :
    Idle serde final ∧ ∃ outcome,
      Chain serde world.store (handleRequest serde msg) final.store outcome ∧
      final.answers = world.answers ++
        outcome.toList.map fun resp => (world.requests.length, some resp) := by
  obtain ⟨_, hp, hs⟩ := ho
  obtain ⟨ht, hr⟩ := hi.receive hp
  generalize handleRequest serde msg = action at hr ⊢
  cases hr with
  | ignored hn ha =>
    obtain rfl := hs.eq_of_idle hn.flights
    refine ⟨hn, none, ?_, by simp [ha]⟩
    rw [ht]
    exact .done
  | @answered toPid tag resp hn ha =>
    obtain rfl := hs.eq_of_idle hn.flights
    refine ⟨hn, some resp, ?_, ha⟩
    rw [ht]
    exact .respondViaDebug
  | admitted _ hsingle ha =>
    obtain ⟨resp, hc, hl, hm⟩ := hsingle.settles_chain hs
    rw [ht] at hc
    rw [ha] at hm
    exact ⟨hl, some resp, hc, hm⟩

lemma Idle.exists_completes (hi : Idle serde world) (ht : msg.tag ≠ MSG_STORAGE_RESULT) :
    ∃ final, Completes serde msg world final := by
  let sys : Syscalls := ⟨fun _ _ => .ok 0, fun _ _ _ => .ok (), 0⟩
  have hc : Cooperative world (.Receive sys msg) := by
    refine ⟨ht, ?_, fun _ _ => ⟨0, rfl⟩⟩
    rintro _ _ _ ⟨⟩
    rw [hi.flights]
    simp
  obtain ⟨_, ha⟩ := hi.receive hc
  generalize handleRequest serde msg = action at ha
  cases ha with
  | ignored hn | answered hn => exact ⟨_, sys, hc, .idle hn.flights⟩
  | admitted _ hsingle =>
    obtain ⟨final, hs⟩ := hsingle.exists_settles
    exact ⟨final, sys, hc, hs⟩

end

end World

end ZeroOS.Vfs
