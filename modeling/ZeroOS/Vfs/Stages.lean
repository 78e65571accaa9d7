import ZeroOS.Vfs.Dispatch

/-!
The stages of a request.
-/

namespace ZeroOS.Vfs

open Path
open StorageResult

def responseTag (tag : UInt32) : UInt32 :=
  if tag = MSG_VFS_MKDIR then MSG_VFS_MKDIR_RESPONSE
  else if tag = MSG_VFS_RMDIR then MSG_VFS_RMDIR_RESPONSE
  else if tag = MSG_VFS_READDIR then MSG_VFS_READDIR_RESPONSE
  else if tag = MSG_VFS_WRITE then MSG_VFS_WRITE_RESPONSE
  else if tag = MSG_VFS_READ then MSG_VFS_READ_RESPONSE
  else if tag = MSG_VFS_UNLINK then MSG_VFS_UNLINK_RESPONSE
  else if tag = MSG_VFS_STAT then MSG_VFS_STAT_RESPONSE
  else if tag = MSG_VFS_EXISTS then MSG_VFS_EXISTS_RESPONSE
  else 0

structure Requests {ρ : Type} (msg : AppMessage) (tag : UInt32)
    (parse : List UInt8 → Except String ρ) (pathOf : ρ → String) (request : ρ) : Prop where
  tag_eq : msg.tag = tag
  parsed : parse msg.data = .ok request
  valid : Path.validatePath (pathOf request) = .ok ()

namespace AppMessage

variable (msg : AppMessage)

def client : ClientContext := .fromMessage msg

-- The permission context under which the request is served.
def permCtx (path : String) : PermissionContext := derivePermissionContext msg.fromPid path

end AppMessage

section

variable (serde : Serde) (msg : AppMessage)

def AsksMkdir : MkdirRequest → Prop :=
  Requests msg MSG_VFS_MKDIR serde.mkdirRequest MkdirRequest.path

def AsksRmdir : RmdirRequest → Prop :=
  Requests msg MSG_VFS_RMDIR serde.rmdirRequest RmdirRequest.path

def AsksReaddir : PathRequest → Prop :=
  Requests msg MSG_VFS_READDIR serde.readdirRequest PathRequest.path

def AsksWrite : WriteFileRequest → Prop :=
  Requests msg MSG_VFS_WRITE serde.writeFileRequest WriteFileRequest.path

def AsksRead : PathRequest → Prop :=
  Requests msg MSG_VFS_READ serde.readFileRequest PathRequest.path

def AsksUnlink : PathRequest → Prop :=
  Requests msg MSG_VFS_UNLINK serde.unlinkRequest PathRequest.path

def AsksStat : PathRequest → Prop :=
  Requests msg MSG_VFS_STAT serde.statRequest PathRequest.path

def AsksExists : PathRequest → Prop :=
  Requests msg MSG_VFS_EXISTS serde.existsRequest PathRequest.path

def fileInode (request : WriteFileRequest) (now : UInt64) : Inode :=
  Inode.newFile request.path (Path.parentPath request.path) (Path.fileName request.path)
    (msg.permCtx request.path).userId (UInt64.ofNat request.content.length) none now

-- While the request is served, this operation waits for this call.
inductive Awaits : StorageCall → PendingOp → Prop where
  | stat {request : PathRequest} (hrequest : AsksStat serde msg request) :
      Awaits (.Read (inodeKey request.path))
        (.GetInode msg.client request.path .Stat (msg.permCtx request.path))
  | existsCheck {request : PathRequest} (hrequest : AsksExists serde msg request) :
      Awaits (.Exists (inodeKey request.path)) (.ExistsCheck msg.client request.path)
  | readInode {request : PathRequest} (hrequest : AsksRead serde msg request) :
      Awaits (.Read (inodeKey request.path))
        (.GetInode msg.client request.path .ReadFile (msg.permCtx request.path))
  | readContent {request : PathRequest} (hrequest : AsksRead serde msg request) :
      Awaits (.Read (contentKey request.path))
        (.GetContent msg.client request.path (msg.permCtx request.path))
  | readdirInode {request : PathRequest} (hrequest : AsksReaddir serde msg request) :
      Awaits (.Read (inodeKey request.path))
        (.ReaddirOp msg.client request.path (msg.permCtx request.path) .ReadingInode)
  | readdirList {request : PathRequest} (hrequest : AsksReaddir serde msg request) :
      Awaits (.List (inodeKey request.path))
        (.ReaddirOp msg.client request.path (msg.permCtx request.path) .ListingChildren)
  | rmdirInode {request : RmdirRequest} (hrequest : AsksRmdir serde msg request) :
      Awaits (.Read (inodeKey request.path))
        (.GetInode msg.client request.path (.Rmdir request.recursive) (msg.permCtx request.path))
  | rmdirDelete {request : RmdirRequest} (hrequest : AsksRmdir serde msg request) :
      Awaits (.Delete (inodeKey request.path))
        (.DeleteInode (some msg.client) MSG_VFS_RMDIR_RESPONSE)
  | unlinkInode {request : PathRequest} (hrequest : AsksUnlink serde msg request) :
      Awaits (.Read (inodeKey request.path))
        (.UnlinkOp msg.client request.path (msg.permCtx request.path) .ReadingInode)
  | unlinkContent {request : PathRequest} (hrequest : AsksUnlink serde msg request) :
      Awaits (.Delete (contentKey request.path))
        (.UnlinkOp msg.client request.path (msg.permCtx request.path) .DeletingContent)
  | unlinkDelete {request : PathRequest} (hrequest : AsksUnlink serde msg request) :
      Awaits (.Delete (inodeKey request.path))
        (.UnlinkOp msg.client request.path (msg.permCtx request.path) .DeletingInode)
  | writeParent {request : WriteFileRequest} (hrequest : AsksWrite serde msg request)
      (hroot : request.path ≠ "/") :
      Awaits (.Read (inodeKey (Path.parentPath request.path)))
        (.WriteFileOp msg.client request.path (msg.permCtx request.path)
          (.CheckingParent request.content))
  | writeContent {request : WriteFileRequest} (hrequest : AsksWrite serde msg request)
      (hroot : request.path ≠ "/") :
      Awaits (.Write (contentKey request.path) request.content)
        (.WriteFileOp msg.client request.path (msg.permCtx request.path)
          (.WritingContent (UInt64.ofNat request.content.length)))
  | writeInode {request : WriteFileRequest} (hrequest : AsksWrite serde msg request)
      (hroot : request.path ≠ "/") {now : UInt64} {value : List UInt8}
      (hvalue : serde.inodeToVec (fileInode msg request now) = .ok value) :
      Awaits (.Write (inodeKey request.path) value)
        (.WriteFileOp msg.client request.path (msg.permCtx request.path) .WritingInode)
  | mkdirExists {request : MkdirRequest} (hrequest : AsksMkdir serde msg request) :
      Awaits (.Exists (inodeKey request.path))
        (.MkdirOp msg.client request.path (msg.permCtx request.path) .CheckingExists
          request.createParents)
  | mkdirParent {request : MkdirRequest} (hrequest : AsksMkdir serde msg request)
      (hplain : request.createParents = false) :
      Awaits (.Read (inodeKey (Path.parentPath request.path)))
        (.MkdirOp msg.client request.path (msg.permCtx request.path) .CheckingParent false)
  | mkdirAncestor {request : MkdirRequest} (hrequest : AsksMkdir serde msg request)
      (hparents : request.createParents = true) {index : Nat}
      (hindex : index < (Path.buildParentPaths request.path).length) :
      Awaits (.Exists (inodeKey ((Path.buildParentPaths request.path).getD index "")))
        (.MkdirOp msg.client request.path (msg.permCtx request.path)
          (.CreatingParents (Path.buildParentPaths request.path) index false) true)
  | mkdirAncestorWrite {request : MkdirRequest} (hrequest : AsksMkdir serde msg request)
      (hparents : request.createParents = true) {index : Nat}
      (hindex : index < (Path.buildParentPaths request.path).length) {value : List UInt8} :
      Awaits (.Write (inodeKey ((Path.buildParentPaths request.path).getD index "")) value)
        (.MkdirOp msg.client request.path (msg.permCtx request.path)
          (.CreatingParents (Path.buildParentPaths request.path) index true) true)
  | mkdirInode {request : MkdirRequest} (hrequest : AsksMkdir serde msg request)
      {createParents : Bool} {now : UInt64} {value : List UInt8}
      (hvalue : serde.inodeToVec
        (directoryInode request.path (msg.permCtx request.path).userId now) = .ok value) :
      Awaits (.Write (inodeKey request.path) value)
        (.MkdirOp msg.client request.path (msg.permCtx request.path) .WritingInode createParents)

end

-- The first stage of each request.
inductive Opens (serde : Serde) (msg : AppMessage) : StorageCall → PendingOp → Prop where
  | stat {request : PathRequest} (hrequest : AsksStat serde msg request) :
      Opens serde msg (.Read (inodeKey request.path))
        (.GetInode msg.client request.path .Stat (msg.permCtx request.path))
  | existsCheck {request : PathRequest} (hrequest : AsksExists serde msg request) :
      Opens serde msg (.Exists (inodeKey request.path)) (.ExistsCheck msg.client request.path)
  | readInode {request : PathRequest} (hrequest : AsksRead serde msg request) :
      Opens serde msg (.Read (inodeKey request.path))
        (.GetInode msg.client request.path .ReadFile (msg.permCtx request.path))
  | readdirInode {request : PathRequest} (hrequest : AsksReaddir serde msg request) :
      Opens serde msg (.Read (inodeKey request.path))
        (.ReaddirOp msg.client request.path (msg.permCtx request.path) .ReadingInode)
  | rmdirInode {request : RmdirRequest} (hrequest : AsksRmdir serde msg request) :
      Opens serde msg (.Read (inodeKey request.path))
        (.GetInode msg.client request.path (.Rmdir request.recursive) (msg.permCtx request.path))
  | unlinkInode {request : PathRequest} (hrequest : AsksUnlink serde msg request) :
      Opens serde msg (.Read (inodeKey request.path))
        (.UnlinkOp msg.client request.path (msg.permCtx request.path) .ReadingInode)
  | writeParent {request : WriteFileRequest} (hrequest : AsksWrite serde msg request)
      (hsize : request.content.length ≤ MAX_CONTENT_SIZE) (hroot : request.path ≠ "/") :
      Opens serde msg (.Read (inodeKey (Path.parentPath request.path)))
        (.WriteFileOp msg.client request.path (msg.permCtx request.path)
          (.CheckingParent request.content))
  | mkdirExists {request : MkdirRequest} (hrequest : AsksMkdir serde msg request) :
      Opens serde msg (.Exists (inodeKey request.path))
        (.MkdirOp msg.client request.path (msg.permCtx request.path) .CheckingExists
          request.createParents)

lemma Opens.awaits (ho : Opens serde msg call op) : Awaits serde msg call op := by
  cases ho with
  | stat hrequest => exact .stat hrequest
  | existsCheck hrequest => exact .existsCheck hrequest
  | readInode hrequest => exact .readInode hrequest
  | readdirInode hrequest => exact .readdirInode hrequest
  | rmdirInode hrequest => exact .rmdirInode hrequest
  | unlinkInode hrequest => exact .unlinkInode hrequest
  | writeParent hrequest _ hr => exact .writeParent hrequest hr
  | mkdirExists hrequest => exact .mkdirExists hrequest

-- A bound on the results that an operation still waits for.
def stagesLeft : PendingOp → Nat
  | .GetInode _ _ .Stat _ => 1
  | .GetInode _ _ _ _ => 2
  | .ReaddirOp _ _ _ .ReadingInode => 2
  | .UnlinkOp _ _ _ .ReadingInode => 3
  | .UnlinkOp _ _ _ .DeletingContent => 2
  | .WriteFileOp _ _ _ (.CheckingParent _) => 3
  | .WriteFileOp _ _ _ (.WritingContent _) => 2
  | .MkdirOp _ path _ .CheckingExists _ => 2 * (Path.buildParentPaths path).length + 3
  | .MkdirOp _ _ _ .CheckingParent _ => 2
  | .MkdirOp _ _ _ (.CreatingParents paths index false) _ => 2 * (paths.length - index) + 1
  | .MkdirOp _ _ _ (.CreatingParents paths index true) _ => 2 * (paths.length - index)
  | _ => 1

-- What becomes of an operation: its response, addressed to the requester, or a stage with
-- fewer results to wait for.
inductive Leads (serde : Serde) (msg : AppMessage) (bound : Nat) : Action → Prop where
  | responds (response : Response) :
      Leads serde msg bound (.Respond msg.client (responseTag msg.tag) response)
  | continues {call : StorageCall} {op : PendingOp} (hawaits : Awaits serde msg call op)
      (hless : stagesLeft op < bound) : Leads serde msg bound (.Start call op)

-- How the shared parts of the handlers end, for any property of actions.
section Elim

variable {serde : Serde} {msg : AppMessage} {motive : Action → Prop}

lemma withRequest_elim (ht : msg.tag = requestTag)
    (hr : ∀ e, motive (.RespondViaDebug msg.fromPid tag (respond e)))
    (hb : ∀ request, Requests msg requestTag parse pathOf request → motive (body request)) :
    motive (withRequest msg tag respond (parse msg.data) pathOf body) := by
  unfold withRequest
  cases hp : parse msg.data with
  | error => exact hr _
  | ok request =>
    dsimp only
    cases hv : validatePath (pathOf request) with
    | error => exact hr _
    | ok => exact hb _ ⟨ht, hp, hv⟩

lemma putInode_elim (hw : ∀ value, serde.inodeToVec inode = .ok value →
      motive (.Start (.Write (inodeKey path) value) op)) :
    motive (putInode serde path inode op fail) := by
  obtain ⟨value, hv, _⟩ := serde.inodeFromSlice_toVec inode
  rw [putInode, hv]
  exact hw _ hv

structure ParentGranted (serde : Serde) (permCtx : PermissionContext) (resultType : UInt8)
    (data : List UInt8) (parent : Inode) : Prop where
  read : resultType = READ_OK
  parsed : serde.inodeFromSlice data = .ok parent
  directory : parent.isDirectory = true
  checked : checkWrite parent permCtx = true

lemma checkParent_elim {data : List UInt8} (hf : ∀ e, motive (fail e))
    (hg : ∀ parent, ParentGranted serde permCtx kind data parent → motive granted) :
    motive (checkParent serde permCtx kind data fail granted) := by
  unfold checkParent
  by_cases hr : kind = READ_OK
  · rw [if_pos hr]
    cases hp : serde.inodeFromSlice data with
    | error => exact hf _
    | ok parent =>
      dsimp only
      by_cases hd : parent.isDirectory = true
      · rw [if_pos hd]
        by_cases hw : checkWrite parent permCtx = true
        · rw [if_pos hw]
          exact hg _ ⟨hr, hp, hd, hw⟩
        · rw [if_neg hw]
          exact hf _
      · rw [if_neg hd]
        exact hf _
  · rw [if_neg hr]
    split
    · exact hf _
    · exact hf _

structure DeletionGranted (serde : Serde) (permCtx : PermissionContext) (fits : Inode → Bool)
    (resultType : UInt8) (data : List UInt8) (inode : Inode) : Prop where
  read : resultType = READ_OK
  parsed : serde.inodeFromSlice data = .ok inode
  fits : fits inode = true
  checked : checkWrite inode permCtx = true

lemma checkDeletion_elim {data : List UInt8} (hf : ∀ e, motive (fail e))
    (hg : ∀ inode, DeletionGranted serde permCtx fits kind data inode → motive granted) :
    motive (checkDeletion serde permCtx fits misfit kind data fail granted) := by
  unfold checkDeletion
  by_cases hr : kind = READ_OK
  · rw [if_pos hr]
    cases hp : serde.inodeFromSlice data with
    | error => exact hf _
    | ok inode =>
      dsimp only
      by_cases hi : fits inode = true
      · rw [if_pos hi]
        by_cases hw : checkWrite inode permCtx = true
        · rw [if_pos hw]
          exact hg _ ⟨hr, hp, hi, hw⟩
        · rw [if_neg hw]
          exact hf _
      · rw [if_neg hi]
        exact hf _
  · rw [if_neg hr]
    split
    · exact hf _
    · exact hf _

lemma handleReadFileInodeResult_elim {data : List UInt8}
    (hf : ∀ e, motive (.Respond clientCtx MSG_VFS_READ_RESPONSE (.ReadFile (.error e))))
    (hg : motive (.Start (.Read (contentKey path)) (.GetContent clientCtx path permCtx))) :
    motive (handleReadFileInodeResult serde clientCtx path permCtx kind data) := by
  unfold handleReadFileInodeResult
  split_ifs
  · cases serde.inodeFromSlice data with
    | error => exact hf _
    | ok =>
      dsimp only
      split_ifs
      · exact hg
      · exact hf _
      · exact hf _
  · exact hf _
  · exact hf _

lemma handleReaddirReadingInode_elim {data : List UInt8}
    (hf : ∀ e, motive (.Respond clientCtx MSG_VFS_READDIR_RESPONSE (.Readdir (.error e))))
    (hg : motive
      (.Start (.List (inodeKey path)) (.ReaddirOp clientCtx path permCtx .ListingChildren))) :
    motive (handleReaddirReadingInode serde clientCtx path permCtx kind data) := by
  unfold handleReaddirReadingInode
  split_ifs
  · cases serde.inodeFromSlice data with
    | error => exact hf _
    | ok =>
      dsimp only
      split_ifs
      · exact hg
      · exact hf _
      · exact hf _
  · exact hf _
  · exact hf _

end Elim

section

variable {serde : Serde} {msg : AppMessage}

-- A request is not understood, answered at once, or begins with its first stage.
inductive Begins (serde : Serde) (msg : AppMessage) : Action → Prop where
  | unknown : Begins serde msg .Done
  | rejected (response : Response) :
      Begins serde msg (.RespondViaDebug msg.fromPid (responseTag msg.tag) response)
  | starts {call : StorageCall} {op : PendingOp} (hopens : Opens serde msg call op) :
      Begins serde msg (.Start call op)

lemma withRequest_begins (ht : msg.tag = requestTag) (hr : responseTag requestTag = tag)
    (hb : ∀ request, Requests msg requestTag parse pathOf request →
      Begins serde msg (body request)) :
    Begins serde msg (withRequest msg tag respond (parse msg.data) pathOf body) := by
  subst hr ht
  exact withRequest_elim rfl (fun e => .rejected ..) hb

lemma handleRequest_begins (serde : Serde) (msg : AppMessage) :
    Begins serde msg (handleRequest serde msg) := by
  unfold handleRequest
  split_ifs with hm hrm hd hw he hu hs hexists
  · exact withRequest_begins hm rfl fun _ hrequest => .starts (.mkdirExists hrequest)
  · exact withRequest_begins hrm rfl fun _ hrequest => .starts (.rmdirInode hrequest)
  · exact withRequest_begins hd rfl fun _ hrequest => .starts (.readdirInode hrequest)
  · refine withRequest_begins hw rfl fun request hrequest => ?_
    have hr : ∀ e, Begins serde msg (sendWriteErrorViaDebug msg.fromPid e) := by
      have ht : responseTag msg.tag = MSG_VFS_WRITE_RESPONSE := by rw [hw]; rfl
      intro e
      rw [sendWriteErrorViaDebug, ← ht]
      exact .rejected ..
    dsimp only
    split_ifs with hi ho
    · exact hr _
    · exact hr _
    · exact .starts (.writeParent hrequest (Nat.not_lt.mp hi) ho)
  · exact withRequest_begins he rfl fun _ hrequest => .starts (.readInode hrequest)
  · exact withRequest_begins hu rfl fun _ hrequest => .starts (.unlinkInode hrequest)
  · exact withRequest_begins hs rfl fun _ hrequest => .starts (.stat hrequest)
  · exact withRequest_begins hexists rfl fun _ hrequest => .starts (.existsCheck hrequest)
  · exact .unknown

lemma withRequest_of (hrequest : Requests msg requestTag parse pathOf request) :
    withRequest msg tag respond (parse msg.data) pathOf body = body request := by
  simp only [withRequest, hrequest.parsed, hrequest.valid]

lemma Opens.handleRequest_eq (ho : Opens serde msg call op) :
    handleRequest serde msg = .Start call op := by
  cases ho with
  | stat h | existsCheck h | readInode h | readdirInode h | rmdirInode h | unlinkInode h
  | mkdirExists h =>
    rw [handleRequest, h.tag_eq]
    repeat rw [if_neg (by decide)]
    rw [if_pos rfl]
    exact withRequest_of h
  | writeParent h hs hr =>
    rw [handleRequest, h.tag_eq]
    repeat rw [if_neg (by decide)]
    rw [if_pos rfl]
    refine (withRequest_of h).trans ?_
    rw [if_neg (Nat.not_lt.mpr hs), if_neg hr]
    rfl

variable {bound : Nat}

lemma Requests.responds (h : Requests msg requestTag parse pathOf request)
    (hr : responseTag requestTag = tag) : Leads serde msg bound (.Respond msg.client tag resp) := by
  rw [← hr, ← h.tag_eq]
  exact .responds ..

section

variable (hrequest : AsksMkdir serde msg request)

include hrequest

-- The stages of a mkdir from the moment at which the directory is made.

lemma createDirectoryInode_leads (hb : 1 < bound) :
    Leads serde msg bound (createDirectoryInode serde now msg.client request.path
      (msg.permCtx request.path) createParents) :=
  putInode_elim fun _ hv => .continues (.mkdirInode hrequest hv) hb

lemma mkdirMissing_leads :
    Leads serde msg (2 * (buildParentPaths request.path).length + 3)
      (mkdirMissing serde now msg.client request.path (msg.permCtx request.path)
        request.createParents) := by
  unfold mkdirMissing
  cases hp : request.createParents with
  | false =>
    refine .continues (.mkdirParent hrequest hp) ?_
    simp only [stagesLeft]
    omega
  | true =>
    cases ht : buildParentPaths request.path with
    | nil => exact createDirectoryInode_leads hrequest (by simp)
    | cons =>
      have hi : 0 < (buildParentPaths request.path).length := by simp [ht]
      have ha := Awaits.mkdirAncestor hrequest hp hi
      simp only [ht] at ha
      refine .continues ha ?_
      simp only [stagesLeft]
      omega

lemma mkdirCreatingParentsNext_leads (hp : request.createParents = true)
    (hi : index < (buildParentPaths request.path).length)
    (hb : 2 * ((buildParentPaths request.path).length - index) ≤ bound) :
    Leads serde msg bound (mkdirCreatingParentsNext serde now msg.client request.path
      (msg.permCtx request.path) (buildParentPaths request.path) index) := by
  unfold mkdirCreatingParentsNext
  dsimp only
  split_ifs with hl
  · exact createDirectoryInode_leads hrequest (by omega)
  · refine .continues (.mkdirAncestor hrequest hp (by omega)) ?_
    simp only [stagesLeft]
    omega

end

lemma resume_leads (haw : Awaits serde msg call op) (now : UInt64) (kind : UInt8)
    (data : List UInt8) : Leads serde msg (stagesLeft op) (resume serde now op kind data) := by
  cases haw with
  | stat hrequest | existsCheck hrequest | readContent hrequest | readdirList hrequest
  | rmdirDelete hrequest => exact hrequest.responds rfl
  | readInode hrequest =>
    refine handleReadFileInodeResult_elim (fun e => hrequest.responds rfl) ?_
    exact .continues (.readContent hrequest) Nat.one_lt_two
  | readdirInode hrequest =>
    refine handleReaddirReadingInode_elim (fun e => hrequest.responds rfl) ?_
    exact .continues (.readdirList hrequest) Nat.one_lt_two
  | rmdirInode hrequest =>
    refine checkDeletion_elim (fun e => hrequest.responds rfl) ?_
    exact fun _ _ => .continues (.rmdirDelete hrequest) Nat.one_lt_two
  | unlinkInode hrequest =>
    refine checkDeletion_elim (fun e => hrequest.responds rfl) ?_
    exact fun _ _ => .continues (.unlinkContent hrequest) (Nat.lt_succ_self 2)
  | unlinkContent hrequest =>
    simp only [resume, handleUnlinkOpResult, handleUnlinkDeletingContent]
    split_ifs
    · exact .continues (.unlinkDelete hrequest) Nat.one_lt_two
    · exact hrequest.responds rfl
  | unlinkDelete hrequest =>
    simp only [resume, handleUnlinkOpResult, handleUnlinkDeletingInode]
    split_ifs
    · exact hrequest.responds rfl
    · exact hrequest.responds rfl
  | writeParent hrequest hr =>
    refine checkParent_elim (fun e => hrequest.responds rfl) ?_
    exact fun _ _ => .continues (.writeContent hrequest hr) (Nat.lt_succ_self 2)
  | writeContent hrequest hr =>
    simp only [resume, handleWriteFileOpResult, handleWriteContentDone]
    split_ifs
    · exact hrequest.responds rfl
    · exact putInode_elim fun _ hv =>
        .continues (.writeInode hrequest hr hv) Nat.one_lt_two
  | writeInode hrequest =>
    simp only [resume, handleWriteFileOpResult, handleWriteInodeDone]
    split_ifs
    · exact hrequest.responds rfl
    · exact hrequest.responds rfl
  | mkdirExists hrequest =>
    simp only [resume, handleMkdirOpResult, handleMkdirCheckingExists]
    split_ifs
    · exact hrequest.responds rfl
    · exact hrequest.responds rfl
    · exact mkdirMissing_leads hrequest
    · exact mkdirMissing_leads hrequest
    · exact hrequest.responds rfl
  | mkdirParent hrequest =>
    refine checkParent_elim (fun e => hrequest.responds rfl) ?_
    exact fun _ _ => createDirectoryInode_leads hrequest Nat.one_lt_two
  | mkdirAncestor hrequest hpa hi =>
    simp only [resume, handleMkdirOpResult, handleMkdirCreatingParents]
    split_ifs
    · exact mkdirCreatingParentsNext_leads hrequest hpa hi (Nat.le_succ _)
    · exact putInode_elim fun _ _ =>
        .continues (.mkdirAncestorWrite hrequest hpa hi) (Nat.lt_succ_self _)
    · exact hrequest.responds rfl
  | mkdirAncestorWrite hrequest hpa hi =>
    simp only [resume, handleMkdirOpResult, handleMkdirCreatingParentsWriteDone]
    split_ifs
    · exact hrequest.responds rfl
    · exact mkdirCreatingParentsNext_leads hrequest hpa hi (Nat.le_refl _)
  | mkdirInode hrequest =>
    simp only [resume, handleMkdirOpResult, handleMkdirWritingInode]
    split_ifs
    · exact hrequest.responds rfl
    · exact hrequest.responds rfl

end

end ZeroOS.Vfs
