import ZeroOS.Vfs.Authorised

/-!
Files and their contents while writes and unlinks are interleaved.
-/

namespace ZeroOS.Vfs

open List Function BTreeMap.Any BTreeMap
open StorageResult

-- The message asks to write, or to unlink, this path.

def WritesPath (serde : Serde) (path : String) (msg : AppMessage) : Prop :=
  ∃ request, AsksWrite serde msg request ∧ request.path = path

def UnlinksPath (serde : Serde) (path : String) (msg : AppMessage) : Prop :=
  ∃ request, AsksUnlink serde msg request ∧ request.path = path

def FileRequest (msg : AppMessage) : Prop := msg.tag = MSG_VFS_WRITE ∨ msg.tag = MSG_VFS_UNLINK

section

variable {serde : Serde} {msg : AppMessage}

lemma FileRequest.plain (hf : FileRequest msg) : Plain serde msg := by
  intro req hr
  rw [FileRequest, hr.tag_eq] at hf
  exact absurd hf (by decide)

lemma FileRequest.unforged (hf : FileRequest msg) : msg.tag ≠ MSG_STORAGE_RESULT := by
  intro ht
  rw [FileRequest, ht] at hf
  exact absurd hf (by decide)

-- What is written, or deleted, for a file request.

lemma Awaits.writesPath (ha : Awaits serde msg (.Write key value) op)
    (hf : FileRequest msg) : ∃ path, WritesPath serde path msg ∧ KeyOf key path := by
  cases ha with
  | writeContent hr => exact ⟨_, ⟨_, hr, rfl⟩, .inr rfl⟩
  | writeInode hr => exact ⟨_, ⟨_, hr, rfl⟩, .inl rfl⟩
  | mkdirAncestorWrite hr hp =>
    rw [hf.plain _ hr] at hp
    cases hp
  | mkdirInode hr =>
    rw [FileRequest, hr.tag_eq] at hf
    exact absurd hf (by decide)

lemma Awaits.unlinksPath (ha : Awaits serde msg (.Delete key) op) (hf : FileRequest msg) :
    ∃ path, UnlinksPath serde path msg ∧ KeyOf key path := by
  cases ha with
  | rmdirDelete hr =>
    rw [FileRequest, hr.tag_eq] at hf
    exact absurd hf (by decide)
  | unlinkContent hr => exact ⟨_, ⟨_, hr, rfl⟩, .inr rfl⟩
  | unlinkDelete hr => exact ⟨_, ⟨_, hr, rfl⟩, .inl rfl⟩

lemma Awaits.resume_emptied (ha : Awaits serde msg (.Delete (contentKey path)) op)
    (now : UInt64) (data : List UInt8) :
    ∃ nextOp, resume serde now op WRITE_OK data = .Start (.Delete (inodeKey path)) nextOp := by
  generalize hc : StorageCall.Delete (contentKey path) = call at ha
  cases ha with
  | rmdirDelete hr | unlinkDelete hr =>
    have hk := StorageCall.Delete.inj hc
    exact absurd hk.symm inodeKey_ne_contentKey
  | unlinkContent =>
    obtain rfl := contentKey_injective (StorageCall.Delete.inj hc)
    exact ⟨_, rfl⟩
  | _ => cases hc

end

namespace Store

variable {store : Store} {call : StorageCall} {path : String}

lemma after_content (hc : (store (contentKey path)).isSome)
    (ha : call ≠ .Delete (contentKey path)) : (store.after call (contentKey path)).isSome := by
  cases call with
  | Read _ | List _ | Exists _ => exact hc
  | Write =>
    rw [after, update_apply]
    split_ifs
    · rfl
    · exact hc
  | Delete key =>
    have hn : contentKey path ≠ key := by
      rintro rfl
      exact ha rfl
    rwa [after, update_of_ne hn]

lemma after_inode (hi : store.after call (inodeKey path) = some value) :
    call = .Write (inodeKey path) value ∨
      (call ≠ .Delete (inodeKey path) ∧ store (inodeKey path) = some value) := by
  cases call with
  | Read _ | List _ | Exists _ => exact .inr ⟨by simp, hi⟩
  | Write key =>
    by_cases hk : inodeKey path = key
    · subst hk
      rw [after, update_self] at hi
      cases hi
      exact .inl rfl
    · rw [after, update_of_ne hk] at hi
      exact .inr ⟨by simp, hi⟩
  | Delete key =>
    by_cases hk : inodeKey path = key
    · subst hk
      rw [after, update_self] at hi
      cases hi
    · rw [after, update_of_ne hk] at hi
      refine .inr ⟨?_, hi⟩
      rintro ⟨⟩
      exact hk rfl

end Store

namespace World

def Serving (world : World) (kind : AppMessage → Prop) : Prop :=
  BTreeMap.Any world.flights fun flight =>
    ∃ msg, world.requests[flight.owner]? = some msg ∧ kind msg

def Emptied (path : String) (flight : Flight) : Prop :=
  (flight.call = .Delete (contentKey path) ∧ ∃ data, flight.answer = some (WRITE_OK, data)) ∨
    (flight.call = .Delete (inodeKey path) ∧ flight.answer = none)

def MidUnlink (world : World) (path : String) : Prop :=
  BTreeMap.Any world.flights (Emptied path)

def Intact (world : World) : Prop :=
  ∀ path value, (∃ executed ∈ world.history, executed.call = .Write (inodeKey path) value) →
    world.store (inodeKey path) = some value →
    (world.store (contentKey path)).isSome ∨ MidUnlink world path

-- Clients write and unlink, and a storage call is carried out or fails.
structure FileTraffic (world : World) (event : Event) : Prop where
  fresh : Fresh world event
  files : ∀ sys msg, event = .Receive sys msg → FileRequest msg
  honest : ∀ id outcome, event = .Execute id outcome → outcome.Honest

-- A write and an unlink of one path do not overlap, and the deletion of an inode whose content
-- is gone is accepted and succeeds.
structure Undisturbed (serde : Serde) (world : World) (event : Event) : Prop where
  write : ∀ sys msg path, event = .Receive sys msg → WritesPath serde path msg →
    ¬ Serving world (UnlinksPath serde path)
  unlink : ∀ sys msg path, event = .Receive sys msg → UnlinksPath serde path msg →
    ¬ Serving world (WritesPath serde path)
  deleted : ∀ (id : UInt32) outcome owner path, event = .Execute id outcome →
    world.flights[id]? = some ⟨owner, .Delete (inodeKey path), none⟩ →
    ∃ listing, outcome = .Succeeds listing
  accepted : ∀ sys (id : UInt32) owner path data, event = .Deliver sys id →
    world.flights[id]? = some ⟨owner, .Delete (contentKey path), some (WRITE_OK, data)⟩ →
    ∃ next, sys.storage 0 (.Delete (inodeKey path)) = .ok next

structure Backed (store : Store) (flight : Flight) : Prop where
  inode : ∀ path value, flight.call = .Write (inodeKey path) value →
    (store (contentKey path)).isSome
  content : ∀ path value data, flight.call = .Write (contentKey path) value →
    flight.answer = some (WRITE_OK, data) → (store (contentKey path)).isSome

structure Kept (serde : Serde) (world : World) : Prop where
  room : world.service.pendingOps.size ≤ MAX_PENDING_OPS
  files : ∀ msg ∈ world.requests, FileRequest msg
  apart : ∀ path, Serving world (WritesPath serde path) → ¬ Serving world (UnlinksPath serde path)
  backed : BTreeMap.Every world.flights (Backed world.store)
  intact : Intact world

section

variable {serde : Serde} {world next : World} {event : Event}

lemma not_emptied_of_unanswered (hc : call ≠ .Delete (inodeKey path)) :
    ¬ Emptied path ⟨owner, call, none⟩ := by
  rintro (⟨_, _, ha⟩ | ⟨hd, _⟩)
  · cases ha
  · exact hc hd

lemma emptied_answered {data : List UInt8} (he : Emptied path ⟨owner, call, some (kind, data)⟩) :
    call = .Delete (contentKey path) ∧ kind = WRITE_OK := by
  obtain ⟨hc, _, ha⟩ | ⟨_, ha⟩ := he
  · cases ha
    exact ⟨hc, rfl⟩
  · cases ha

section

variable (hmv : Moves serde world event next)

include hmv

lemma Moves.serving (hsnd : Sound serde world) (hs : Serving next kind) :
    Serving world kind ∨ ∃ sys msg, event = .Receive sys msg ∧ kind msg := by
  -- The requests of the calls that were in flight are still the same.
  have ha : ∀ {later : List AppMessage},
      (BTreeMap.Any world.flights fun flight =>
        ∃ msg, (world.requests ++ later)[flight.owner]? = some msg ∧ kind msg) →
      Serving world kind := by
    intro later han
    refine han.mono ?_
    rintro id flight hf ⟨msg, he, hk⟩
    obtain ⟨op, asked, hr⟩ := hsnd.serves hf
    rw [requests_append hr.requested later] at he
    cases he
    exact ⟨_, hr.requested, hk⟩
  cases hmv with
  | ignored | rejected => exact .inl (ha hs)
  | @admitted sys msg id call op ho hro hfr =>
    obtain ⟨asked, has, hk⟩ | hold := of_insert hs
    · have hsa : asked = msg := by simpa using has.symm
      exact .inr ⟨sys, msg, rfl, hsa ▸ hk⟩
    · exact .inl (ha hold)
  | idle => exact .inl hs
  | succeeded _ hf | answered _ _ hf =>
    obtain hn | hold := of_insert hs
    · exact .inl ⟨_, _, hf, hn⟩
    · exact .inl hold
  | responded | aborted => exact .inl (of_erase hs)
  | continued hr =>
    obtain hn | hold := of_insert hs
    · exact .inl ⟨_, _, hr.issued, hn⟩
    · exact .inl (of_erase hold)

lemma Moves.files (ht : FileTraffic world event) (hf : ∀ msg ∈ world.requests, FileRequest msg) :
    ∀ msg ∈ next.requests, FileRequest msg := by
  have ha : ∀ {sys msg}, event = .Receive sys msg →
      ∀ asked ∈ world.requests ++ [msg], FileRequest asked := by
    intro sys msg he asked hm
    obtain ho | hn := mem_append.mp hm
    · exact hf _ ho
    · rw [mem_singleton.mp hn]
      exact ht.files sys msg he
  cases hmv with
  | ignored _ | rejected _ | admitted _ _ _ => exact ha rfl
  | idle _ | succeeded _ _ | answered _ _ _ | responded _ _ _ | continued _ _ _ _ _ _
  | aborted => exact hf

lemma Moves.apart (hsnd : Sound serde world) (hd : Undisturbed serde world event)
    (hkept : Kept serde world) (path : String) (ht : Serving next (WritesPath serde path)) :
    ¬ Serving next (UnlinksPath serde path) := by
  intro hl
  obtain hw | ⟨sys, msg, he, hr⟩ := hmv.serving hsnd ht
  · obtain hu | ⟨sys, msg, he, hn⟩ := hmv.serving hsnd hl
    · exact hkept.apart _ hw hu
    · exact hd.unlink sys msg _ he hn hw
  · obtain hu | ⟨_, _, ho, _, hn, _⟩ := hmv.serving hsnd hl
    · exact hd.write sys msg _ he hr hu
    · -- One message cannot ask for both.
      rw [he] at ho
      cases ho
      obtain ⟨_, has, _⟩ := hr
      have ha := has.tag_eq.symm.trans hn.tag_eq
      exact absurd ha (by decide)

end

section Kept

variable (hkept : Kept serde world) (hsnd : Sound serde world)
include hkept hsnd

lemma Kept.not_writing {id other : UInt32}
    (hd : world.flights[id]? = some ⟨owner, .Delete key, answer⟩) (hk : KeyOf key path)
    (hf : world.flights[other]? = some flight) (hw : KeyOf written path) :
    flight.call ≠ .Write written value := by
  intro hc
  obtain ⟨_, msg, hs⟩ := hsnd.serves hd
  have hi := hkept.files msg (mem_of_getElem? hs.requested)
  obtain ⟨_, hu, hg⟩ := hs.awaits.unlinksPath hi
  obtain rfl := hk.unique hg
  obtain ⟨_, asked, ho⟩ := hsnd.serves hf
  have ha := ho.awaits
  rw [hc] at ha
  have has := hkept.files asked (mem_of_getElem? ho.requested)
  obtain ⟨_, hr, hm⟩ := ha.writesPath has
  obtain rfl := hw.unique hm
  exact hkept.apart _ ⟨other, flight, hf, asked, ho.requested, hr⟩
    ⟨id, _, hd, msg, hs.requested, hu⟩

section

variable {id : UInt32} (hcalled : world.flights[id]? = some ⟨owner, call, none⟩)

include hcalled

lemma Kept.backed_after {other : UInt32} (hf : world.flights[other]? = some flight) :
    Backed (world.store.after call) flight := by
  have hb := hkept.backed other flight hf
  refine ⟨?_, ?_⟩
  · intro path value hc
    refine Store.after_content (hb.inode _ _ hc) ?_
    rintro rfl
    exact hkept.not_writing hsnd hcalled (.inr rfl) hf (.inl rfl) hc
  · intro path value data hc ha
    refine Store.after_content (hb.content _ _ _ hc ha) ?_
    rintro rfl
    exact hkept.not_writing hsnd hcalled (.inr rfl) hf (.inr rfl) hc

lemma Kept.backed_answered (answer : Option (UInt8 × List UInt8)) :
    Backed (world.store.after call) ⟨owner, call, answer⟩ := by
  refine ⟨(hkept.backed_after hsnd hcalled hcalled).inode, ?_⟩
  rintro path value data hc _
  obtain rfl : call = .Write (contentKey path) value := hc
  rw [Store.after, update_self]
  rfl

lemma Kept.intact_after :
    Intact { world with
      store := world.store.after call
      flights := world.flights.insert id ⟨owner, call, some (world.store.answer listing call)⟩
      history := world.history ++ [⟨owner, call, (world.store.answer listing call).1,
        (world.store.answer listing call).2⟩] } := by
  rintro path value ⟨executed, hm, hw⟩ hi
  by_cases hr : call = .Write (inodeKey path) value
  · exact .inl ((hkept.backed_answered hsnd hcalled none).inode path value hr)
  -- The inode is an old one; so is the record of its write.
  obtain ⟨hc, hb⟩ := (Store.after_inode hi).resolve_left hr
  have hl : executed ∈ world.history := by
    refine (mem_append.mp hm).resolve_right fun hn => ?_
    rw [mem_singleton.mp hn] at hw
    exact hr hw
  by_cases hd : call = .Delete (contentKey path)
  · subst hd
    refine .inr (any_insert_self ?_)
    exact .inl ⟨rfl, [], rfl⟩
  obtain ho | hmi := hkept.intact path value ⟨executed, hl, hw⟩ hb
  · exact .inl (Store.after_content ho hd)
  · refine .inr (hmi.insert ?_ _)
    intro flight hf
    rw [hcalled] at hf
    cases hf
    exact not_emptied_of_unanswered hc

end

end Kept

lemma Kept.backed_next (hkept : Kept serde world) {id : UInt32}
    {data : List UInt8} (hs : Serves serde world id op ⟨owner, call, some (kind, data)⟩ msg)
    (hr : resume serde now op kind data = .Start nextCall nextOp) :
    Backed world.store ⟨owner, nextCall, none⟩ := by
  have hf := hkept.files msg (mem_of_getElem? hs.requested)
  have hl := resume_writesOnly hs.awaits hf.plain now kind data
  rw [hr] at hl
  refine ⟨?_, fun _ _ _ _ ha => by cases ha⟩
  rintro path value rfl
  generalize hk : inodeKey path = key at hl
  cases hl with
  | content => exact absurd hk inodeKey_ne_contentKey
  | fileInode _ hw =>
    obtain rfl := inodeKey_injective hk
    obtain rfl := hw
    exact (hkept.backed id _ hs.issued).content _ _ data rfl rfl
  | directory hq =>
    rw [FileRequest, hq.tag_eq] at hf
    exact absurd hf (by decide)

lemma Kept.intact_of_mid (hkept : Kept serde world) (hh : next.history = world.history)
    (hs : next.store = world.store)
    (hm : ∀ path, MidUnlink world path → MidUnlink next path) : Intact next := by
  intro path value hr hi
  rw [hh] at hr
  rw [hs] at hi ⊢
  obtain hc | hb := hkept.intact path value hr hi
  · exact .inl hc
  · exact .inr (hm _ hb)

section

variable (hmv : Moves serde world event next)

include hmv

lemma Moves.midUnlink (hun : Undisturbed serde world event) (hkept : Kept serde world)
    (hhi : next.history = world.history) (hmi : MidUnlink world path) : MidUnlink next path := by
  cases hmv with
  | ignored | rejected | idle => exact hmi
  | admitted _ _ hfr =>
    refine hmi.insert ?_ _
    intro old ho
    exact absurd ((mem_iff _).mpr ⟨old, ho⟩) hfr
  | succeeded => simp at hhi
  | @answered id owner call kind data hfl =>
    refine hmi.insert ?_ _
    intro old ho
    rw [hfl] at ho
    cases ho
    refine not_emptied_of_unanswered ?_
    rintro rfl
    obtain ⟨_, hsu⟩ := hun.deleted id _ owner path rfl hfl
    cases hsu
  | @responded sys id owner call op kind data msg resp effect hsr hre _ =>
    refine hmi.erase ?_
    intro old ho hem
    rw [hsr.issued] at ho
    cases ho
    obtain ⟨rfl, rfl⟩ := emptied_answered hem
    obtain ⟨_, hst⟩ := hsr.awaits.resume_emptied sys.wallclock data
    rw [hst] at hre
    cases hre
  | @continued sys id place owner call nextCall op nextOp kind data msg hsr hre
      _ _ _ hfr =>
      by_cases hem : Emptied path ⟨owner, call, some (kind, data)⟩
      · -- This is the unlink: it goes on with the inode.
        obtain ⟨rfl, rfl⟩ := emptied_answered hem
        obtain ⟨_, hst⟩ := hsr.awaits.resume_emptied sys.wallclock data
        rw [hst] at hre
        cases hre
        exact any_insert_self (.inr ⟨rfl, rfl⟩)
      · have hrs : BTreeMap.Any (world.flights.erase id) (Emptied path) := by
          refine hmi.erase ?_
          intro old ho
          rw [hsr.issued] at ho
          cases ho
          exact hem
        refine hrs.insert ?_ _
        intro old ho
        rw [get_erase] at ho
        split_ifs at ho
        exact absurd ((mem_iff _).mpr ⟨old, ho⟩) hfr
  | @aborted sys id owner call nextCall op nextOp kind data msg e hsr hre
      hrf =>
      refine hmi.erase ?_
      intro old ho hem
      rw [hsr.issued] at ho
      cases ho
      obtain ⟨rfl, rfl⟩ := emptied_answered hem
      obtain ⟨_, hst⟩ := hsr.awaits.resume_emptied sys.wallclock data
      rw [hst] at hre
      cases hre
      obtain hfu | ⟨_, hco⟩ := hrf
      · exact Nat.not_le.mpr (size_erase_lt hsr.pending hkept.room) hfu
      · obtain ⟨_, hid⟩ := hun.accepted sys id owner path data rfl hsr.issued
        rw [hid] at hco
        cases hco

lemma Moves.backed (hsnd : Sound serde world) (ht : FileTraffic world event)
    (hkept : Kept serde world) : BTreeMap.Every next.flights (Backed next.store) := by
  cases hmv with
  | ignored | rejected | idle => exact hkept.backed
  | admitted ho =>
    refine hkept.backed.insert _ ⟨?_, fun _ _ _ _ ha => by cases ha⟩
    rintro path value rfl
    cases ho
  | @succeeded id owner call listing hf =>
    have hl : BTreeMap.Every world.flights (Backed (world.store.after call)) :=
      fun other flight hot => hkept.backed_after hsnd hf hot
    exact hl.insert id (hkept.backed_answered hsnd hf _)
  | @answered id owner call kind data hf =>
    refine hkept.backed.insert id ⟨(hkept.backed id _ hf).inode, ?_⟩
    rintro path value found _ ⟨⟩
    -- An answer that was not carried out is an error.
    have he : WRITE_OK = ERROR := ht.honest _ _ rfl
    exact absurd he (by decide)
  | responded | aborted => exact hkept.backed.erase _
  | continued hs hr =>
    exact (hkept.backed.erase _).insert _ (hkept.backed_next hs hr)

lemma Moves.intact (hsnd : Sound serde world) (hu : Undisturbed serde world event)
    (hkept : Kept serde world) : Intact next := by
  have hs := fun hh ht => hkept.intact_of_mid hh ht fun path =>
    hmv.midUnlink hu hkept hh
  cases hmv with
  | succeeded _ hf => exact hkept.intact_after hsnd hf
  | ignored _ | rejected _ | admitted _ _ _ | idle _ | answered _ _ _ | responded _ _ _
  | continued _ _ _ _ _ _ | aborted _ _ _ _ => exact hs rfl rfl

lemma Moves.kept (hsnd : Sound serde world) (ht : FileTraffic world event)
    (hu : Undisturbed serde world event) (hkept : Kept serde world) :
    Kept serde next where
  room := hmv.room hkept.room
  files := hmv.files ht hkept.files
  apart := hmv.apart hsnd hu hkept
  backed := hmv.backed hsnd ht hkept
  intact := hmv.intact hsnd hu hkept

end

lemma start_kept {store : Store} : Kept serde (start store) where
  room := by simp [start]
  files := by simp [start]
  apart := by
    rintro path ⟨id, flight, hf, _⟩
    simp [start] at hf
  backed := by
    intro id flight hf
    simp [start] at hf
  intact := by
    rintro path value ⟨_, hm, _⟩
    cases hm

lemma FileTraffic.unforged (ht : FileTraffic world event) : Unforged event := by
  cases event with
  | Receive sys msg => exact (ht.files sys msg rfl).unforged
  | Execute | Deliver => trivial

theorem written_inode_has_content {store : Store} {events : List Event}
    (halong : Run.Along (step serde)
      (fun world event => FileTraffic world event ∧ Undisturbed serde world event)
      (start store) events) :
    Intact (Run.run (step serde) (start store) events) := by
  have hr := run_of_moves (fun _ _ h => ⟨h.1.unforged, h.1.fresh⟩)
    (fun world event next hsnd hkept h hmv => hmv.kept hsnd h.1 h.2 hkept)
    (start_sound _) start_kept halong
  exact hr.2.intact

end

-- Events of the sample runs.

lemma fileTraffic_receive {id : Int64} (hf : FileRequest msg)
    (hr : id.toUInt64.toUInt32 ∉ world.flights) :
    FileTraffic world (.Receive (VfsJson.nextId id) msg) := by
  refine ⟨?_, ?_, ?_⟩
  · rintro _ _ _ ⟨⟩
    exact hr
  · rintro _ _ ⟨⟩
    exact hf
  · rintro _ _ ⟨⟩

lemma fileTraffic_execute {id : UInt32} (hh : outcome.Honest) :
    FileTraffic world (.Execute id outcome) := by
  refine ⟨trivial, ?_, ?_⟩
  · rintro _ _ ⟨⟩
  · rintro _ _ ⟨⟩
    exact hh

lemma fileTraffic_deliver {id : UInt32} (hf : nid.toUInt64.toUInt32 ∉ world.flights) :
    FileTraffic world (.Deliver (VfsJson.nextId nid) id) := by
  refine ⟨?_, ?_, ?_⟩
  · rintro _ _ _ ⟨⟩
    exact hf
  · rintro _ _ ⟨⟩
  · rintro _ _ ⟨⟩

lemma undisturbed_receive (hi : ∀ kind, ¬ Serving world kind) :
    Undisturbed serde world (.Receive sys msg) := by
  refine ⟨fun _ _ _ _ _ => hi _, fun _ _ _ _ _ => hi _, ?_, ?_⟩
  · rintro _ _ _ _ ⟨⟩
  · rintro _ _ _ _ _ ⟨⟩

lemma undisturbed_execute {id : UInt32} :
    Undisturbed serde world (.Execute id (.Succeeds listing)) := by
  refine ⟨?_, ?_, ?_, ?_⟩
  · rintro _ _ _ ⟨⟩
  · rintro _ _ _ ⟨⟩
  · rintro _ _ _ _ ⟨⟩ _
    exact ⟨listing, rfl⟩
  · rintro _ _ _ _ _ ⟨⟩

lemma undisturbed_deliver {id : UInt32} :
    Undisturbed serde world (.Deliver (VfsJson.nextId nid) id) := by
  refine ⟨?_, ?_, ?_, ?_⟩
  · rintro _ _ _ ⟨⟩
  · rintro _ _ _ ⟨⟩
  · rintro _ _ _ _ ⟨⟩
  · rintro _ _ _ _ _ ⟨⟩ _
    exact ⟨nid, rfl⟩

def askUnlink : AppMessage where
  tag := MSG_VFS_UNLINK
  fromPid := 10
  capSlots := []
  data := VfsJson.pathRequest.encode ⟨"/home/1/x"⟩

-- The write of a file up to its inode.
def wholeWrite : List Event :=
  oneWrite ++ [.Deliver (VfsJson.nextId 3) 2, .Execute 3 (.Succeeds [])]

def Written (world : World) (path : String) : Bool :=
  world.history.any fun executed =>
    some executed.call = (world.store (inodeKey path)).map (.Write (inodeKey path))

theorem written_inode_has_content_wholeWrite :
    Written (Run.run (step VfsJson.serde) (start homeStore) wholeWrite) "/home/1/x" = true ∧
      Intact (Run.run (step VfsJson.serde) (start homeStore) wholeWrite) := by
  have hi : ∀ kind, ¬ Serving (start homeStore) kind := by
    rintro kind ⟨_, _, hf, _⟩
    simp [start] at hf
  refine ⟨by decide +kernel, written_inode_has_content ?_⟩
  exact ⟨⟨fileTraffic_receive (.inl rfl) (by decide +kernel), undisturbed_receive hi⟩,
    ⟨fileTraffic_execute trivial, undisturbed_execute⟩,
    ⟨fileTraffic_deliver (by decide +kernel), undisturbed_deliver⟩,
    ⟨fileTraffic_execute trivial, undisturbed_execute⟩,
    ⟨fileTraffic_deliver (by decide +kernel), undisturbed_deliver⟩,
    ⟨fileTraffic_execute trivial, undisturbed_execute⟩, trivial⟩

-- A file is written again, and unlinked after its content was written and before its inode is.
def overlapping : List Event :=
  wholeWrite ++
    [.Deliver (VfsJson.nextId 4) 3,
      .Receive (VfsJson.nextId 5) askWrite, .Execute 5 (.Succeeds []),
      .Deliver (VfsJson.nextId 6) 5, .Execute 6 (.Succeeds []),
      .Receive (VfsJson.nextId 7) askUnlink, .Execute 7 (.Succeeds []),
      .Deliver (VfsJson.nextId 8) 7, .Execute 8 (.Succeeds []),
      .Deliver (VfsJson.nextId 9) 8, .Execute 9 (.Succeeds []),
      .Deliver (VfsJson.nextId 10) 9,
      .Deliver (VfsJson.nextId 11) 6, .Execute 11 (.Succeeds []),
      .Deliver (VfsJson.nextId 12) 11]

-- An unlink whose second deletion fails.
def halfway : List Event :=
  wholeWrite ++
    [.Deliver (VfsJson.nextId 4) 3,
      .Receive (VfsJson.nextId 5) askUnlink, .Execute 5 (.Succeeds []),
      .Deliver (VfsJson.nextId 6) 5, .Execute 6 (.Succeeds []),
      .Deliver (VfsJson.nextId 7) 6, .Execute 7 (.Answers ERROR []),
      .Deliver (VfsJson.nextId 8) 7]

lemma not_intact_of_written (path : String)
    (hl : Written world path = true ∧ (world.store (contentKey path)).isSome = false ∧
      world.flights.isEmpty = true) : ¬ Intact world := by
  intro hi
  obtain ⟨hw, hc, hf⟩ := hl
  obtain ⟨executed, hm, ha⟩ := any_eq_true.mp hw
  obtain ⟨value, hn, hr⟩ := Option.map_eq_some_iff.mp (of_decide_eq_true ha).symm
  obtain hs | ⟨_, _, hfl, _⟩ := hi path value ⟨executed, hm, hr.symm⟩ hn
  · rw [hc] at hs
    cases hs
  · rw [Std.ExtTreeMap.isEmpty_iff.mp hf] at hfl
    simp at hfl

lemma overlapping_traffic :
    Run.Along (step VfsJson.serde) FileTraffic (start homeStore) overlapping := by
  exact ⟨fileTraffic_receive (.inl rfl) (by decide +kernel), fileTraffic_execute trivial,
    fileTraffic_deliver (by decide +kernel), fileTraffic_execute trivial,
    fileTraffic_deliver (by decide +kernel), fileTraffic_execute trivial,
    fileTraffic_deliver (by decide +kernel),
    fileTraffic_receive (.inl rfl) (by decide +kernel), fileTraffic_execute trivial,
    fileTraffic_deliver (by decide +kernel), fileTraffic_execute trivial,
    fileTraffic_receive (.inr rfl) (by decide +kernel), fileTraffic_execute trivial,
    fileTraffic_deliver (by decide +kernel), fileTraffic_execute trivial,
    fileTraffic_deliver (by decide +kernel), fileTraffic_execute trivial,
    fileTraffic_deliver (by decide +kernel),
    fileTraffic_deliver (by decide +kernel), fileTraffic_execute trivial,
    fileTraffic_deliver (by decide +kernel), trivial⟩

theorem content_lost :
    Run.Along (step VfsJson.serde) FileTraffic (start homeStore) overlapping ∧
      ¬ Intact (Run.run (step VfsJson.serde) (start homeStore) overlapping) ∧
      ¬ Intact (Run.run (step VfsJson.serde) (start homeStore) halfway) := by
  exact ⟨overlapping_traffic, not_intact_of_written "/home/1/x" (by decide +kernel),
    not_intact_of_written "/home/1/x" (by decide +kernel)⟩

end World

end ZeroOS.Vfs
