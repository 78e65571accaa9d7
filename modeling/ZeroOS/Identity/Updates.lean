import ZeroOS.Lib.Json
import ZeroOS.Lib.Run

/-!
Updates of the two files that the identity service keeps for a user.
-/

namespace ZeroOS.Identity

open List

abbrev Bytes := List UInt8

abbrev U128 := BitVec 128

inductive KeyScheme where
  | Classical
  | PqHybrid
deriving DecidableEq

inductive VfsError where
  | NotFound
  | AlreadyExists
  | Failed (reason : String)
deriving DecidableEq

def VfsError.text : VfsError → String
  | NotFound => "NotFound"
  | AlreadyExists => "AlreadyExists"
  | Failed reason => reason

-- The updates `υ` of one file. `afterRead` gives what is to be written for what was read, if
-- anything was.
structure Editor (υ ε : Type) where
  afterRead : υ → Option Bytes → Except ε Bytes
  -- After a failed write the directory is created and the write is tried again.
  retries : υ → Bool
  writeFailed : υ → String → ε
  mkdirFailed : υ → ε

inductive FileRequest where
  | Read
  | Write (bytes : Bytes) (again : Bool)
  | Mkdir (bytes : Bytes)
deriving DecidableEq

structure Running (υ : Type) where
  update : υ
  request : FileRequest
  reply : Option (Except VfsError Bytes)

structure Desk (υ ε : Type) where
  file : Option Bytes
  running : List (Running υ)
  answered : List (υ × Except ε Unit)

inductive DeskAction (υ : Type) where
  | Start (update : υ)
  | Execute (i : Nat) (fault : Option VfsError)
  | Deliver (i : Nat)

namespace Desk

variable {υ ε : Type} (editor : Editor υ ε)

-- What the file system does, unless it fails.
def execute (file : Option Bytes) : FileRequest → Option Bytes × Except VfsError Bytes
  | .Read => (file, match file with
      | some bytes => .ok bytes
      | none => .error .NotFound)
  | .Write bytes _ => (some bytes, .ok [])
  | .Mkdir _ => (file, .ok [])

-- What the service does with the answer: another request, or the response to the client.
def onReply (update : υ) (request : FileRequest) (reply : Except VfsError Bytes) :
    FileRequest ⊕ Except ε Unit :=
  match request with
  | .Read =>
    match editor.afterRead update reply.toOption with
    | .error e => .inr (.error e)
    | .ok bytes => .inl (.Write bytes false)
  | .Write bytes again =>
    match reply with
    | .ok _ => .inr (.ok ())
    | .error e =>
      if editor.retries update && !again then .inl (.Mkdir bytes)
      else .inr (.error (editor.writeFailed update e.text))
  | .Mkdir bytes =>
    match reply with
    | .ok _ | .error .AlreadyExists => .inl (.Write bytes true)
    | .error _ => .inr (.error (editor.mkdirFailed update))

section

variable (initial : Option Bytes) (desk : Desk υ ε)

-- An answer goes to the update that asked for it, as `Exchange.answer_resumes_asker` says of the
-- table of the service.
def step : DeskAction υ → Desk υ ε
  | .Start update => { desk with running := desk.running ++ [⟨update, .Read, none⟩] }
  | .Execute i fault =>
    match desk.running[i]? with
    | some ⟨update, request, none⟩ =>
      let (file, reply) := match fault with
        | some e => (desk.file, .error e)
        | none => execute desk.file request
      { desk with file, running := desk.running.set i ⟨update, request, some reply⟩ }
    | _ => desk
  | .Deliver i =>
    match desk.running[i]? with
    | some ⟨update, request, some reply⟩ =>
      match onReply editor update request reply with
      | .inl next => { desk with running := desk.running.set i ⟨update, next, none⟩ }
      | .inr answer => { desk with
          running := desk.running.eraseIdx i
          answered := desk.answered ++ [(update, answer)] }
    | _ => desk

def apply (file : Option Bytes) (update : υ) : Option (Option Bytes) :=
  match editor.afterRead update file with
  | .ok bytes => some (some bytes)
  | .error _ => none

def acknowledged : List υ :=
  desk.answered.filterMap fun answer => match answer.2 with
    | .ok () => some answer.1
    | .error _ => none

def Kept : Prop :=
  ∃ order : List υ, order.Perm desk.acknowledged ∧ order.foldlM (apply editor) initial = some desk.file

-- An update begins when none is under way, and no read fails.
def Calm : DeskAction υ → Prop
  | .Start _ => desk.running = []
  | .Execute i fault => ∀ running, desk.running[i]? = some running → running.request = .Read →
      fault = none
  | .Deliver _ => True

def Applied : Prop :=
  desk.acknowledged.foldlM (apply editor) initial = some desk.file

-- How far the only update under way has come.
def Fits (running : Running υ) : Prop :=
  match running.request, running.reply with
  | .Read, none => Applied editor initial desk
  | .Read, some reply => Applied editor initial desk ∧ reply.toOption = desk.file
  | .Write bytes _, some (.ok _) => desk.file = some bytes ∧
      (desk.acknowledged ++ [running.update]).foldlM (apply editor) initial = some (some bytes)
  | .Write bytes _, _ | .Mkdir bytes, _ => Applied editor initial desk ∧
      editor.afterRead running.update desk.file = .ok bytes

def Orderly : Prop :=
  desk.running = [] ∧ Applied editor initial desk ∨
    ∃ running, desk.running = [running] ∧ Fits editor initial desk running

end

variable {editor} {initial : Option Bytes} {desk : Desk υ ε}

lemma foldlM_snoc (h : Applied editor initial desk)
    (ha : editor.afterRead update desk.file = .ok bytes) :
    (desk.acknowledged ++ [update]).foldlM (apply editor) initial = some (some bytes) := by
  rw [foldlM_append, h]
  simp [apply, ha]

section

variable (hord : Orderly editor initial desk)

include hord

-- The only update under way is the first.
lemma Orderly.cases (i : Nat) :
    desk.running[i]? = none ∨ ∃ running, i = 0 ∧ desk.running = [running] ∧
      Fits editor initial desk running := by
  obtain ⟨hn, -⟩ | ⟨running, ho, hf⟩ := hord
  · rw [hn]
    exact .inl rfl
  · rw [ho]
    cases i with
    | zero => exact .inr ⟨running, rfl, rfl, hf⟩
    | succ => exact .inl rfl

lemma Orderly.execute (hc : Calm desk (.Execute i fault)) :
    Orderly editor initial (step editor desk (.Execute i fault)) := by
  obtain hn | ⟨⟨_, req, reply⟩, rfl, ho, hf⟩ := hord.cases i
  · simpa only [step, hn] using hord
  · simp only [step, ho, getElem?_cons_zero]
    cases reply with
    | some => exact hord
    | none =>
      refine .inr ⟨_, rfl, ?_⟩
      cases req with
      | Read =>
        obtain rfl := hc _ (by rw [ho]; rfl) rfl
        refine ⟨hf, ?_⟩
        cases hl : desk.file <;> simp [Desk.execute, Except.toOption]
      | Write =>
        have hs := foldlM_snoc hf.1 hf.2
        cases fault with
        | some => exact hf
        | none => exact ⟨rfl, hs⟩
      | Mkdir => cases fault <;> exact hf

lemma Orderly.deliver : Orderly editor initial (step editor desk (.Deliver i)) := by
  obtain hn | ⟨⟨update, req, reply⟩, rfl, ho, hf⟩ := hord.cases i
  · simpa only [step, hn] using hord
  · simp only [step, ho, getElem?_cons_zero]
    cases reply with
    | none => exact hord
    | some reply =>
      have hr : ∀ e, Applied editor initial desk → Orderly editor initial
          ⟨desk.file, [], desk.answered ++ [(update, .error e)]⟩ := by
        intro e ha
        exact .inl ⟨rfl, by simpa [Applied, acknowledged] using ha⟩
      cases req with
      | Read =>
        obtain ⟨ha, hp⟩ := hf
        simp only [onReply, hp]
        cases haf : editor.afterRead update desk.file with
        | error e => exact hr e ha
        | ok => exact .inr ⟨_, rfl, ha, haf⟩
      | Write =>
        cases reply with
        | ok =>
          obtain ⟨hl, hfo⟩ := hf
          refine .inl ⟨rfl, ?_⟩
          simpa [Applied, acknowledged, onReply, hl] using hfo
        | error =>
          simp only [onReply]
          split_ifs
          · exact .inr ⟨_, rfl, hf⟩
          · exact hr _ hf.1
      | Mkdir =>
        rcases reply with (_ | _ | _) | _
        all_goals first
          | exact .inr ⟨_, rfl, hf⟩
          | exact hr _ hf.1

lemma step_orderly (hc : Calm desk action) : Orderly editor initial (step editor desk action) := by
  cases action with
  | Start update =>
    obtain ⟨hn, ha⟩ | ⟨_, ho, _⟩ := hord
    · exact .inr ⟨⟨update, .Read, none⟩, by simp only [step, hn, nil_append], ha⟩
    · exact absurd (ho.symm.trans hc) (cons_ne_nil _ _)
  | Execute => exact hord.execute hc
  | Deliver => exact hord.deliver

lemma Orderly.kept (hd : desk.running = []) : Kept editor initial desk := by
  obtain ⟨_, ha⟩ | ⟨_, ho, _⟩ := hord
  · exact ⟨_, .refl _, ha⟩
  · exact absurd (ho.symm.trans hd) (cons_ne_nil _ _)

end

end Desk

-- The credentials.

inductive CredentialType where
  | Email
  | Phone
  | OAuth
  | WebAuthn
deriving DecidableEq

structure LinkedCredential where
  credentialType : CredentialType
  value : String
  verified : Bool
  linkedAt : UInt64
  verifiedAt : Option UInt64
  isPrimary : Bool
deriving DecidableEq

structure CredentialStore where
  userId : U128
  credentials : List LinkedCredential
deriving DecidableEq

inductive CredentialError where
  | NotFound
  | StorageError (reason : String)
deriving DecidableEq

inductive CredentialUpdate where
  | AttachEmail (email : String) (now : UInt64)
  | UnlinkCredential (credentialType : CredentialType)
deriving DecidableEq

-- `serde_json` for the two files.
structure Serde where
  readCredentials : Bytes → Option CredentialStore
  writeCredentials : CredentialStore → Bytes
  readPreferences : Bytes → Option (KeyScheme × Option U128)
  writePreferences : KeyScheme × Option U128 → Bytes

def continueAttachEmail (store : CredentialStore) (email : String) (now : UInt64) :
    CredentialStore :=
  let kept := store.credentials.filter fun c =>
    ¬ (c.credentialType = .Email ∧ c.value = email ∧ ¬ c.verified)
  { store with credentials := kept ++ [{
      credentialType := .Email
      value := email
      verified := true
      linkedAt := now
      verifiedAt := some now
      isPrimary := kept.all (·.credentialType ≠ .Email) }] }

def continueUnlinkCredential (store : CredentialStore) (credentialType : CredentialType) :
    Except CredentialError CredentialStore :=
  let kept := store.credentials.filter (·.credentialType ≠ credentialType)
  if kept.length = store.credentials.length then .error .NotFound
  else .ok { store with credentials := kept }

-- To attach, a file that could not be read or parsed counts as none.
def credentialEditor (serde : Serde) (userId : U128) : Editor CredentialUpdate CredentialError where
  afterRead
    | .AttachEmail email now, data =>
      let existing := (data.bind serde.readCredentials).getD ⟨userId, []⟩
      .ok (serde.writeCredentials (continueAttachEmail existing email now))
    | .UnlinkCredential _, none | .UnlinkCredential _, some [] => .error .NotFound
    | .UnlinkCredential credentialType, some data =>
      match serde.readCredentials data with
      | none => .error (.StorageError "Parse failed")
      | some store => (continueUnlinkCredential store credentialType).map serde.writeCredentials
  retries
    | .AttachEmail _ _ => true
    | .UnlinkCredential _ => false
  writeFailed
    | .AttachEmail _ _, e => .StorageError s!"VFS write failed: {e}"
    | .UnlinkCredential _, e => .StorageError s!"VFS write failed for unlink: {e}"
  mkdirFailed _ := .StorageError "Failed to create credentials directory"

-- The preferences: the default key scheme and the default machine key.

inductive PreferenceUpdate where
  | SetDefaultKeyScheme (keyScheme : KeyScheme)
  | SetDefaultMachineKey (machineId : U128)
deriving DecidableEq

def preferenceEditor (serde : Serde) : Editor PreferenceUpdate String where
  afterRead update data :=
    let existing := (data.bind serde.readPreferences).getD (.Classical, none)
    .ok (serde.writePreferences (match update with
      | .SetDefaultKeyScheme keyScheme => (keyScheme, existing.2)
      | .SetDefaultMachineKey machineId => (existing.1, some machineId)))
  retries
    | .SetDefaultKeyScheme _ => false
    | .SetDefaultMachineKey _ => true
  writeFailed
    | .SetDefaultKeyScheme _, e => s!"VFS write failed for preferences: {e}"
    | .SetDefaultMachineKey _, e => s!"VFS write failed for default machine key: {e}"
  mkdirFailed _ := "Failed to create identity directory"

-- The two files as JSON texts.

open Json

def credentialTypeJson : Codec CredentialType :=
  string.via
    (fun
      | .Email => "Email"
      | .Phone => "Phone"
      | .OAuth => "OAuth"
      | .WebAuthn => "WebAuthn")
    (fun name => if name = "Email" then .Email else if name = "Phone" then .Phone
      else if name = "OAuth" then .OAuth else .WebAuthn)
    fun type => by cases type <;> rfl

def keySchemeJson : Codec KeyScheme :=
  string.via (fun scheme => if scheme = .Classical then "classical" else "pq_hybrid")
    (fun name => if name = "classical" then .Classical else .PqHybrid)
    fun scheme => by cases scheme <;> rfl

def u128Json : Codec U128 :=
  number.via BitVec.toNat (BitVec.ofNat 128) fun value => BitVec.ofNat_toNat 128 value

def linkedCredentialJson : Codec LinkedCredential :=
  ((credentialTypeJson.field "value" (string.field "verified" (bool.field "linked_at"
    (word.field "verified_at" ((word.option fun _ => rfl).field "is_primary" bool))))).object
      "credential_type").via
    (fun c => (c.credentialType, c.value, c.verified, c.linkedAt, c.verifiedAt, c.isPrimary))
    (fun v => ⟨v.1, v.2.1, v.2.2.1, v.2.2.2.1, v.2.2.2.2.1, v.2.2.2.2.2⟩) fun _ => rfl

def credentialStoreJson : Codec CredentialStore :=
  ((u128Json.field "credentials" (linkedCredentialJson.list fun _ => rfl)).object "user_id").via
    (fun s => (s.userId, s.credentials)) (fun v => ⟨v.1, v.2⟩) fun _ => rfl

def preferencesJson : Codec (KeyScheme × Option U128) :=
  (keySchemeJson.field "default_machine_id" (u128Json.option fun _ => rfl)).object
    "default_key_scheme"

def jsonSerde : Serde where
  readCredentials data := (fromSlice credentialStoreJson data).toOption
  writeCredentials := credentialStoreJson.encode
  readPreferences data := (fromSlice preferencesJson data).toOption
  writePreferences := preferencesJson.encode

-- Both files of a user.
structure Account where
  credentials : Desk CredentialUpdate CredentialError
  preferences : Desk PreferenceUpdate String

abbrev AccountAction := DeskAction CredentialUpdate ⊕ DeskAction PreferenceUpdate

namespace Account

variable (serde : Serde) (userId : U128)

def step (account : Account) : AccountAction → Account
  | .inl action =>
    { account with credentials := account.credentials.step (credentialEditor serde userId) action }
  | .inr action =>
    { account with preferences := account.preferences.step (preferenceEditor serde) action }

def Calm (account : Account) : AccountAction → Prop
  | .inl action => account.credentials.Calm action
  | .inr action => account.preferences.Calm action

variable (credentials preferences : Option Bytes)

def start : Account :=
  ⟨⟨credentials, [], []⟩, ⟨preferences, [], []⟩⟩

-- Once all updates are answered, each file is what the acknowledged ones make of it.
def Kept (account : Account) : Prop :=
  (account.credentials.running = [] →
    Desk.Kept (credentialEditor serde userId) credentials account.credentials) ∧
  (account.preferences.running = [] →
    Desk.Kept (preferenceEditor serde) preferences account.preferences)

def Orderly (account : Account) : Prop :=
  Desk.Orderly (credentialEditor serde userId) credentials account.credentials ∧
    Desk.Orderly (preferenceEditor serde) preferences account.preferences

lemma step_orderly (account : Account) (action : AccountAction)
    (hord : Orderly serde userId credentials preferences account) (hc : account.Calm action) :
    Orderly serde userId credentials preferences (step serde userId account action) := by
  cases action with
  | inl => exact ⟨Desk.step_orderly hord.1 hc, hord.2⟩
  | inr => exact ⟨hord.1, Desk.step_orderly hord.2 hc⟩

-- For updates of a file that do not overlap, with reads that do not fail.
theorem updates_kept (actions : List AccountAction)
    (hcalm : Run.Along (step serde userId) Calm (start credentials preferences) actions) :
    Kept serde userId credentials preferences
      (Run.run (step serde userId) (start credentials preferences) actions) := by
  have hs : Orderly serde userId credentials preferences (start credentials preferences) :=
    ⟨.inl ⟨rfl, rfl⟩, .inl ⟨rfl, rfl⟩⟩
  have hord := Run.run_invariant (step serde userId) Calm _
    (step_orderly serde userId credentials preferences) hs hcalm
  exact ⟨hord.1.kept, hord.2.kept⟩

def attachRun (fault : Option VfsError) : List AccountAction :=
  [.inl (.Start (.AttachEmail "a@b.c" 7)), .inl (.Execute 0 fault), .inl (.Deliver 0),
    .inl (.Execute 0 none), .inl (.Deliver 0)]

def oldStore : CredentialStore := ⟨1, [⟨.Phone, "555", true, 5, none, true⟩]⟩

def oldFile : Option Bytes := some (credentialStoreJson.encode oldStore)

theorem updates_kept_attach :
    (Run.run (step jsonSerde 1) (start oldFile none) (attachRun none)).credentials.file =
        some (credentialStoreJson.encode ⟨1, oldStore.credentials ++
          [⟨.Email, "a@b.c", true, 7, some 7, true⟩]⟩) ∧
      Kept jsonSerde 1 oldFile none
        (Run.run (step jsonSerde 1) (start oldFile none) (attachRun none)) :=
  ⟨by decide +kernel, updates_kept _ 1 oldFile none (attachRun none)
    ⟨rfl, fun _ _ _ => rfl, trivial, fun _ _ _ => rfl, trivial, trivial⟩⟩

theorem failed_read_erases : ¬ Kept jsonSerde 1 oldFile none
    (Run.run (step jsonSerde 1) (start oldFile none) (attachRun (some (.Failed "io")))) := by
  intro hk
  obtain ⟨_, hp, hf⟩ := hk.1 (by decide +kernel)
  have ha : (Run.run (step jsonSerde 1) (start oldFile none)
      (attachRun (some (.Failed "io")))).credentials.acknowledged = [.AttachEmail "a@b.c" 7] := by
    decide +kernel
  rw [ha, perm_singleton] at hp
  subst hp
  exact absurd hf (by decide +kernel)

end Account

end ZeroOS.Identity
