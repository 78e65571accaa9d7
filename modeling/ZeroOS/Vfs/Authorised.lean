import ZeroOS.Vfs.Json
import ZeroOS.Vfs.World

/-!
Who may create.
-/

namespace ZeroOS.Vfs

open List StorageResult

def KeyOf (key path : String) : Prop := key = inodeKey path ∨ key = contentKey path

lemma KeyOf.unique (hf : KeyOf key first) (hs : KeyOf key second) : first = second := by
  obtain rfl | rfl := hf
  · obtain he | he := hs
    · exact inodeKey_injective he
    · exact absurd he inodeKey_ne_contentKey
  · obtain he | he := hs
    · exact absurd he.symm inodeKey_ne_contentKey
    · exact contentKey_injective he

def AsksToCreate (serde : Serde) (msg : AppMessage) (path : String) : Prop :=
  (∃ request, AsksMkdir serde msg request ∧ request.path = path) ∨
    ∃ request, AsksWrite serde msg request ∧ request.path = path

def Plain (serde : Serde) (msg : AppMessage) : Prop :=
  ∀ request, AsksMkdir serde msg request → request.createParents = false

section

variable {serde : Serde} {msg : AppMessage}

def WritesOnly (good : String → Prop) : Action → Prop
  | .Start (.Write key _) _ => good key
  | _ => True

-- What a result must have said before anything is written: the parent has been read and lets
-- the request pass, or the content has been written.
inductive WriteAllowed (serde : Serde) (msg : AppMessage) (resultType : UInt8)
    (data : List UInt8) : StorageCall → String → Prop where
  | content {request : WriteFileRequest} {parent : Inode} (hrequest : AsksWrite serde msg request)
      (hgranted : ParentGranted serde (msg.permCtx request.path) resultType data parent) :
      WriteAllowed serde msg resultType data (.Read (inodeKey (Path.parentPath request.path)))
        (contentKey request.path)
  | fileInode {request : WriteFileRequest} (hrequest : AsksWrite serde msg request)
      (hwritten : resultType = WRITE_OK) :
      WriteAllowed serde msg resultType data
        (.Write (contentKey request.path) request.content) (inodeKey request.path)
  | directory {request : MkdirRequest} {parent : Inode} (hrequest : AsksMkdir serde msg request)
      (hgranted : ParentGranted serde (msg.permCtx request.path) resultType data parent) :
      WriteAllowed serde msg resultType data (.Read (inodeKey (Path.parentPath request.path)))
        (inodeKey request.path)

lemma resume_writesOnly (ha : Awaits serde msg call op) (hl : Plain serde msg)
    (now : UInt64) (kind : UInt8) (data : List UInt8) :
    WritesOnly (WriteAllowed serde msg kind data call) (resume serde now op kind data) := by
  cases ha with
  | stat | existsCheck | readContent | readdirList | rmdirDelete => trivial
  | readInode => exact handleReadFileInodeResult_elim (fun _ => trivial) trivial
  | readdirInode => exact handleReaddirReadingInode_elim (fun _ => trivial) trivial
  | rmdirInode | unlinkInode => exact checkDeletion_elim (fun _ => trivial) fun _ _ => trivial
  | unlinkContent =>
    simp only [resume, handleUnlinkOpResult, handleUnlinkDeletingContent]
    split_ifs <;> trivial
  | unlinkDelete =>
    simp only [resume, handleUnlinkOpResult, handleUnlinkDeletingInode]
    split_ifs <;> trivial
  | writeParent hr =>
    refine checkParent_elim (fun _ => trivial) fun parent hg => ?_
    exact .content hr hg
  | writeContent hr =>
    simp only [resume, handleWriteFileOpResult, handleWriteContentDone]
    split_ifs with hf
    · trivial
    · refine putInode_elim fun value _ => ?_
      exact .fileInode hr (not_not.mp hf)
  | writeInode =>
    simp only [resume, handleWriteFileOpResult, handleWriteInodeDone]
    split_ifs <;> trivial
  | mkdirExists hr =>
    simp only [resume, handleMkdirOpResult, handleMkdirCheckingExists, hl _ hr]
    split_ifs <;> trivial
  | mkdirParent hr =>
    refine checkParent_elim (fun _ => trivial) fun parent hg => ?_
    refine putInode_elim fun value _ => ?_
    exact .directory hr hg
  | mkdirAncestor hr hp | mkdirAncestorWrite hr hp =>
    rw [hl _ hr] at hp
    cases hp
  | mkdirInode =>
    simp only [resume, handleMkdirOpResult, handleMkdirWritingInode]
    split_ifs <;> trivial

end

namespace World

def Passed (serde : Serde) (requests : List AppMessage) (history : List Executed) (token : Nat)
    (path : String) : Prop :=
  ∃ msg asked data parent, requests[token]? = some msg ∧ AsksToCreate serde msg asked ∧
    ⟨token, .Read (inodeKey (Path.parentPath path)), READ_OK, data⟩ ∈ history ∧
    ParentGranted serde (msg.permCtx asked) READ_OK data parent

-- Whatever was written to an inode key or a content key was written for a request that has
-- passed the check.
def Authorised (serde : Serde) (world : World) : Prop :=
  ∀ executed ∈ world.history, ∀ key value path, executed.call = .Write key value →
    KeyOf key path → Passed serde world.requests world.history executed.owner path

-- No parents are to be created and no results are forged, by clients or by storage.
structure Orderly (serde : Serde) (world : World) (event : Event) : Prop where
  unforged : Unforged event
  fresh : Fresh world event
  honest : ∀ id outcome, event = .Execute id outcome → outcome.Honest
  plain : ∀ sys msg, event = .Receive sys msg → Plain serde msg

structure FlightGuarded (serde : Serde) (requests : List AppMessage) (history : List Executed)
    (flight : Flight) : Prop where
  writing : ∀ key value path, flight.call = .Write key value → KeyOf key path →
    Passed serde requests history flight.owner path
  read : ∀ key data, flight.call = .Read key → flight.answer = some (READ_OK, data) →
    ⟨flight.owner, .Read key, READ_OK, data⟩ ∈ history

structure Guarded (serde : Serde) (world : World) : Prop where
  plain : ∀ msg ∈ world.requests, Plain serde msg
  written : Authorised serde world
  flights : BTreeMap.Every world.flights (FlightGuarded serde world.requests world.history)

section

variable {serde : Serde} {world next : World} {requests : List AppMessage} {history : List Executed}

lemma Passed.mono (hp : Passed serde requests history token path) (later : List AppMessage)
    (more : List Executed) : Passed serde (requests ++ later) (history ++ more) token path := by
  obtain ⟨msg, asked, data, parent, hr, ha, he, hg⟩ := hp
  exact ⟨msg, asked, data, parent, requests_append hr _, ha, mem_append_left _ he, hg⟩

lemma FlightGuarded.mono (hg : FlightGuarded serde requests history flight)
    (later : List AppMessage) (more : List Executed) :
    FlightGuarded serde (requests ++ later) (history ++ more) flight where
  writing := fun key _ _ hc hk => (hg.writing key _ _ hc hk).mono later more
  read := fun key _ hc ha => mem_append_left _ (hg.read key _ hc ha)

lemma Guarded.arrive (hg : Guarded serde world) (hp : Plain serde msg) :
    Guarded serde { world with requests := world.requests ++ [msg] } := by
  have hn := append_nil world.history
  refine ⟨?_, ?_, ?_⟩
  · intro asked hm
    obtain ho | he := mem_append.mp hm
    · exact hg.plain _ ho
    · rw [mem_singleton.mp he]
      exact hp
  · intro executed hm key value path hc hk
    have ha := (hg.written executed hm key value path hc hk).mono [msg] []
    rwa [hn] at ha
  · refine hg.flights.mono fun flight hf => ?_
    have hl := hf.mono [msg] []
    rwa [hn] at hl

lemma Opens.flightGuarded (ho : Opens serde msg call op) (token : Nat) :
    FlightGuarded serde requests history ⟨token, call, none⟩ := by
  refine ⟨?_, fun _ _ _ ha => by cases ha⟩
  rintro key value path rfl
  cases ho

lemma Guarded.record (hg : Guarded serde world) (executed : Executed)
    (hp : ∀ key value path, executed.call = .Write key value → KeyOf key path →
      Passed serde world.requests world.history executed.owner path) :
    Guarded serde { world with history := world.history ++ [executed] } := by
  have hn := append_nil world.requests
  have hl : ∀ {token path}, Passed serde world.requests world.history token path →
      Passed serde world.requests (world.history ++ [executed]) token path := by
    intro token path hp
    have hm := hp.mono [] [executed]
    rwa [hn] at hm
  refine ⟨hg.plain, ?_, ?_⟩
  · intro other he key value path hc hk
    obtain ho | hne := mem_append.mp he
    · exact hl (hg.written _ ho key _ _ hc hk)
    · rw [mem_singleton.mp hne] at hc ⊢
      exact hl (hp key _ _ hc hk)
  · refine hg.flights.mono fun flight hf => ?_
    have hm := hf.mono [] [executed]
    rwa [hn] at hm

lemma Guarded.continue (hu : Guarded serde world) {id : UInt32}
    {data : List UInt8} (hs : Serves serde world id op ⟨owner, call, some (kind, data)⟩ msg)
    (hrs : resume serde now op kind data = .Start nextCall nextOp) :
    FlightGuarded serde world.requests world.history ⟨owner, nextCall, none⟩ := by
  have hf := hu.flights id _ hs.issued
  have hp := hu.plain msg (mem_of_getElem? hs.requested)
  have hl := resume_writesOnly hs.awaits hp now kind data
  rw [hrs] at hl
  refine ⟨?_, fun _ _ _ ha => by cases ha⟩
  rintro key value path rfl hk
  cases hl with
  | @content req parent hr hg =>
    obtain rfl := hk.unique (.inr rfl)
    obtain rfl := hg.read
    exact ⟨msg, req.path, data, parent, hs.requested, .inr ⟨req, hr, rfl⟩, hf.read _ _ rfl rfl, hg⟩
  | @fileInode req hr _ =>
    obtain rfl := hk.unique (.inl rfl)
    exact hf.writing _ _ req.path rfl (.inr rfl)
  | @directory req parent hr hg =>
    obtain rfl := hk.unique (.inl rfl)
    obtain rfl := hg.read
    exact ⟨msg, req.path, data, parent, hs.requested, .inl ⟨req, hr, rfl⟩, hf.read _ _ rfl rfl, hg⟩

lemma Moves.guarded (hm : Moves serde world event next) (ho : Orderly serde world event)
    (hg : Guarded serde world) : Guarded serde next := by
  cases hm with
  | ignored | rejected =>
    have ha := hg.arrive (ho.plain _ _ rfl)
    exact ⟨ha.plain, ha.written, ha.flights⟩
  | admitted hp =>
    have ha := hg.arrive (ho.plain _ _ rfl)
    exact ⟨ha.plain, ha.written, ha.flights.insert _ (Opens.flightGuarded hp _)⟩
  | idle => exact hg
  | @succeeded id owner call listing hf =>
    have hi := hg.flights id _ hf
    have hr := hg.record ⟨owner, call, (world.store.answer listing call).1,
      (world.store.answer listing call).2⟩ hi.writing
    refine ⟨hr.plain, hr.written, hr.flights.insert id ⟨?_, ?_⟩⟩
    · exact (hr.flights id _ hf).writing
    · intro key data hc hn
      obtain rfl : call = .Read key := hc
      have hgo : world.store.answer listing (.Read key) = (READ_OK, data) := Option.some.inj hn
      rw [hgo]
      exact mem_append_right _ (mem_singleton_self _)
  | @answered id owner call kind data hf =>
    have hi := hg.flights id _ hf
    refine ⟨hg.plain, hg.written, hg.flights.insert id ⟨hi.writing, ?_⟩⟩
    rintro key found _ ⟨⟩
    -- An answer that was not carried out is an error.
    have he : READ_OK = ERROR := ho.honest _ _ rfl
    exact absurd he (by decide)
  | responded | aborted => exact ⟨hg.plain, hg.written, hg.flights.erase _⟩
  | continued hs hrs =>
    exact ⟨hg.plain, hg.written, (hg.flights.erase _).insert _ (hg.continue hs hrs)⟩

lemma start_guarded {store : Store} : Guarded serde (start store) := by
  refine ⟨?_, ?_, ?_⟩
  · intro msg hm
    cases hm
  · intro executed hm
    cases hm
  · intro id flight hf
    simp [start] at hf

theorem creation_authorised {store : Store} {events : List Event}
    (horderly : Run.Along (step serde) (Orderly serde) (start store) events) :
    Authorised serde (Run.run (step serde) (start store) events) := by
  have hr := run_of_moves (fun _ _ h => ⟨h.unforged, h.fresh⟩)
    (fun world event next _ hg h hm => hm.guarded h hg)
    (start_sound _) start_guarded horderly
  exact hr.2.written

end

-- A file is written in the home directory of its user.

def homeStore : Store :=
  Function.update (fun _ => none) (inodeKey "/home/1")
    (some (VfsJson.inode.encode (Inode.newDirectory "/home/1" "/home" "1" (some 1) 0)))

def askWrite : AppMessage where
  tag := MSG_VFS_WRITE
  fromPid := 10
  capSlots := []
  data := VfsJson.writeFileRequest.encode ⟨"/home/1/x", [7]⟩

def oneWrite : List Event :=
  [.Receive (VfsJson.nextId 1) askWrite, .Execute 1 (.Succeeds []),
    .Deliver (VfsJson.nextId 2) 1, .Execute 2 (.Succeeds [])]

lemma orderly_receive {id : Int64} (ht : msg.tag ≠ MSG_STORAGE_RESULT)
    (hf : id.toUInt64.toUInt32 ∉ world.flights) (hp : Plain serde msg) :
    Orderly serde world (.Receive (VfsJson.nextId id) msg) := by
  refine ⟨ht, ?_, ?_, ?_⟩
  · rintro _ _ _ ⟨⟩
    exact hf
  · rintro _ _ ⟨⟩
  · rintro _ _ ⟨⟩
    exact hp

lemma orderly_execute {id : UInt32} : Orderly serde world (.Execute id (.Succeeds listing)) := by
  refine ⟨trivial, trivial, ?_, ?_⟩
  · rintro _ _ ⟨⟩
    trivial
  · rintro _ _ ⟨⟩

lemma orderly_deliver {id : UInt32} (hf : nid.toUInt64.toUInt32 ∉ world.flights) :
    Orderly serde world (.Deliver (VfsJson.nextId nid) id) := by
  refine ⟨trivial, ?_, ?_, ?_⟩
  · rintro _ _ _ ⟨⟩
    exact hf
  · rintro _ _ ⟨⟩
  · rintro _ _ ⟨⟩

lemma oneWrite_orderly :
    Run.Along (step VfsJson.serde) (Orderly VfsJson.serde) (start homeStore) oneWrite := by
  have hp : Plain VfsJson.serde askWrite := fun _ hm => absurd hm.tag_eq (by decide)
  exact ⟨orderly_receive (by decide) (by decide +kernel) hp, orderly_execute,
    orderly_deliver (by decide +kernel), orderly_execute, trivial⟩

def writesTo (key : String) : StorageCall → Bool
  | .Write written _ => written = key
  | _ => false

theorem creation_authorised_oneWrite :
    ((Run.run (step VfsJson.serde) (start homeStore) oneWrite).history.any fun executed =>
        writesTo (contentKey "/home/1/x") executed.call) = true ∧
      Authorised VfsJson.serde (Run.run (step VfsJson.serde) (start homeStore) oneWrite) :=
  ⟨by decide +kernel, creation_authorised oneWrite_orderly⟩

-- An application has a directory made below one that it may not write to, and that does not
-- even exist.

def askMkdirParents : AppMessage where
  tag := MSG_VFS_MKDIR
  fromPid := 10
  capSlots := []
  data := VfsJson.mkdirRequest.encode ⟨"/system/x", true⟩

def unchecked : List Event :=
  [.Receive (VfsJson.nextId 1) askMkdirParents, .Execute 1 (.Succeeds []),
    .Deliver (VfsJson.nextId 2) 1, .Execute 2 (.Succeeds []),
    .Deliver (VfsJson.nextId 3) 2, .Execute 3 (.Succeeds []),
    .Deliver (VfsJson.nextId 4) 3, .Execute 4 (.Succeeds [])]

def uncheckedWorld : World := Run.run (step VfsJson.serde) (start fun _ => none) unchecked

def isRead : StorageCall → Bool
  | .Read _ => true
  | _ => false

lemma unchecked_written :
    (uncheckedWorld.history.any fun executed =>
      writesTo (inodeKey "/system/x") executed.call) = true := by
  decide +kernel

lemma unchecked_unread :
    (uncheckedWorld.history.any fun executed => isRead executed.call) = false := by
  decide +kernel

theorem created_without_check : ¬ Authorised VfsJson.serde uncheckedWorld := by
  intro ha
  obtain ⟨executed, hm, hw⟩ := any_eq_true.mp unchecked_written
  cases hc : executed.call with
  | Write key value =>
    rw [hc] at hw
    have hk : KeyOf key "/system/x" := .inl (of_decide_eq_true hw)
    obtain ⟨_, _, _, _, _, _, hr, _⟩ :=
      ha executed hm key value "/system/x" hc hk
    have hu := any_eq_false.mp unchecked_unread _ hr
    exact hu rfl
  | Read key | Delete key | List key | Exists key =>
    rw [hc] at hw
    cases hw

end World

end ZeroOS.Vfs
