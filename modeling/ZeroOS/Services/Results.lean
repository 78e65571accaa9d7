import ZeroOS.Identity.Service
import ZeroOS.Lib.Slice
import ZeroOS.Vfs.Json
import ZeroOS.Vfs.Dispatch

/-!
The messages in which results arrive, as they are read in the browser build, where `usize` has 32
bits and sums wrap.
-/

namespace ZeroOS

open Slice

open Vfs (AppMessage)

namespace Browser

-- The first lines of the four handlers.
def parseResult (bytes : List UInt8) : Except OutOfRange (Option StorageResult) :=
  if bytes.length < 9 then .ok none
  else
    let requestId := leWord32 bytes
    let resultType := bytes.getD 4 0
    let dataLen := leWord32 (bytes.drop 5)
    if dataLen > 0 ∧ bytes.length ≥ (9 + dataLen).toNat then do
      let data ← slice bytes 9 (9 + dataLen)
      .ok (some ⟨requestId, resultType, data⟩)
    else .ok (some ⟨requestId, resultType, []⟩)

def VfsService.handleStorageResult (serde : Serde) (sys : Vfs.Syscalls) (service : VfsService)
    (msg : AppMessage) : Except OutOfRange Handled := do
  match ← parseResult msg.data with
  | none => .ok ⟨service, .ok (), []⟩
  | some result => .ok (service.storageCompleted serde sys result)

def KeystoreService.handleKeystoreResult (serde : Keystore.Serde) (sys : Keystore.Syscalls)
    (service : KeystoreService) (msg : AppMessage) : Except OutOfRange KeystoreService.Handled := do
  match ← parseResult msg.data with
  | none => .ok ⟨service, .ok (), []⟩
  | some result => .ok (service.keystoreCompleted serde sys result)

def NetworkService.handleNetResult (lossy : List UInt8 → String) (service : NetworkService)
    (msg : AppMessage) : Except OutOfRange (NetworkService × List Network.Effect) := do
  match ← parseResult msg.data with
  | none =>
    let length := msg.data.length
    .ok (service, [.Debug
      s!"NetworkService: MSG_NET_RESULT payload too short (got {length} bytes, need 9)"])
  | some result =>
    let id := result.requestId
    let kind := result.resultType
    let length := leWord32 (msg.data.drop 5)
    let (service, effects) := service.fetchCompleted lossy result
    .ok (service,
      .Debug s!"NetworkService: net result request_id={id}, type={kind}, data_len={length}" ::
        effects)

def IdentityService.handleNetResult {σ κ ν η : Type} (flows : Identity.Flows σ κ ν η)
    (sys : Identity.Syscalls) (service : IdentityService σ κ ν) (msg : AppMessage) :
    Except OutOfRange (IdentityService.Outcome σ κ ν) := do
  match ← parseResult msg.data with
  | none => .ok service.ignore
  | some result => .ok (service.fetchCompleted flows sys result)

def VfsService.onMessage (serde : Serde) (sys : Vfs.Syscalls) (service : VfsService)
    (msg : AppMessage) : Except OutOfRange Handled :=
  if msg.tag = MSG_STORAGE_RESULT then handleStorageResult serde sys service msg
  else .ok (service.perform serde sys (Vfs.handleRequest serde msg))

def KeystoreService.onMessage (serde : Keystore.Serde) (sys : Keystore.Syscalls)
    (service : KeystoreService) (msg : AppMessage) : Except OutOfRange KeystoreService.Handled :=
  if msg.tag = Keystore.MSG_KEYSTORE_RESULT then handleKeystoreResult serde sys service msg
  else .ok (service.perform serde sys (Keystore.handleRequest serde msg))

-- The header is there, and the length in it does not fit behind it.
def ResultWraps (bytes : List UInt8) : Prop :=
  9 ≤ bytes.length ∧ Wraps 9 (leWord32 (bytes.drop 5))

instance (bytes : List UInt8) : Decidable (ResultWraps bytes) :=
  inferInstanceAs (Decidable (_ ∧ _))

lemma parseResult_of_wraps (hw : ResultWraps bytes) :
    parseResult bytes = .error ⟨9, (9 + leWord32 (bytes.drop 5)).toNat, bytes.length⟩ := by
  have hs : (9 + leWord32 (bytes.drop 5)).toNat < 9 := toNat_add_lt_of_wraps hw.2
  have hp : leWord32 (bytes.drop 5) > 0 := by
    have hi := hw.2
    rw [Wraps] at hi
    refine UInt32.lt_iff_toNat_lt.mpr ?_
    have hn : (9 : UInt32).toNat = 9 := rfl
    have hz : (0 : UInt32).toNat = 0 := rfl
    omega
  rw [parseResult, if_neg (Nat.not_lt_of_le hw.1)]
  rw [if_pos ⟨hp, Nat.le_trans (Nat.le_of_lt hs) hw.1⟩, slice_of_wraps hw.2]
  rfl

lemma parseResult_of_fits (hf : ¬ ResultWraps bytes) :
    parseResult bytes = .ok (parseStorageResult bytes) := by
  unfold parseResult parseStorageResult
  by_cases hs : bytes.length < 9
  · rw [if_pos hs, if_pos hs]
  have hn : ¬ Wraps 9 (leWord32 (bytes.drop 5)) := fun h => hf ⟨Nat.le_of_not_lt hs, h⟩
  have hu : (9 + leWord32 (bytes.drop 5)).toNat = 9 + (leWord32 (bytes.drop 5)).toNat :=
    toNat_add_of_not_wraps hn
  have hp : leWord32 (bytes.drop 5) > 0 ↔ (leWord32 (bytes.drop 5)).toNat > 0 :=
    UInt32.lt_iff_toNat_lt
  rw [if_neg hs, if_neg hs]
  simp only [hu, hp]
  by_cases ht : (leWord32 (bytes.drop 5)).toNat > 0 ∧
      bytes.length ≥ 9 + (leWord32 (bytes.drop 5)).toNat
  · rw [if_pos ht, if_pos ht, slice_of_fits hn (hu ▸ ht.2)]
    rfl
  · rw [if_neg ht, if_neg ht]

lemma payload_fits (hl : 9 + result.data.length < 4294967296) :
    ¬ ResultWraps (StorageResult.payload result) := by
  have hd : leWord32 (result.payload.drop 5) = UInt32.ofNat result.data.length :=
    leWord32_leBytes32 ..
  rintro ⟨-, hw⟩
  rw [Wraps, hd, UInt32.toNat_ofNat_of_lt' (Nat.lt_of_add_left_lt hl)] at hw
  exact Nat.not_le_of_lt hl hw

-- What comes of a message: what the handler does where sums are exact, or an abort.
structure Reads {α : Type} (wraps : Prop) (result : Except OutOfRange α) (handled : α) : Prop where
  aborts : wraps → ∃ outOfRange, result = .error outOfRange
  fits : ¬ wraps → result = .ok handled

section

variable {α : Type} {handled : α} {result : Except OutOfRange α}

lemma Reads.exists_ok_iff {P : α → Prop} (hr : Reads wraps result handled) :
    (∃ value, result = .ok value ∧ P value) ↔ ¬ wraps ∧ P handled := by
  constructor
  · rintro ⟨value, ho, hv⟩
    have hf : ¬ wraps := by
      intro hw
      obtain ⟨_, he⟩ := hr.aborts hw
      cases he.symm.trans ho
    obtain rfl := Except.ok.inj ((hr.fits hf).symm.trans ho)
    exact ⟨hf, hv⟩
  · rintro ⟨hf, hv⟩
    exact ⟨handled, hr.fits hf, hv⟩

lemma reads_parse {next : Option StorageResult → Except OutOfRange α}
    (hn : next (parseStorageResult bytes) = .ok handled) :
    Reads (ResultWraps bytes) (parseResult bytes >>= next) handled where
  aborts hw := by
    rw [parseResult_of_wraps hw]
    exact ⟨_, rfl⟩
  fits hf := by
    rw [parseResult_of_fits hf]
    exact hn

-- Only a message with the tag is read.
lemma Reads.dispatch {tagged : Prop} [Decidable tagged] (hr : Reads wraps result handled) :
    Reads (tagged ∧ wraps) (if tagged then result else .ok other)
      (if tagged then handled else other) := by
  split_ifs with ht
  · exact ⟨fun hw => hr.aborts hw.2, fun hf => hr.fits fun hw => hf ⟨ht, hw⟩⟩
  · exact ⟨fun hw => absurd hw.1 ht, fun _ => rfl⟩

end

section

variable {msg : AppMessage}

lemma VfsService.handleStorageResult_reads {service : VfsService} :
    Reads (ResultWraps msg.data) (handleStorageResult serde sys service msg)
      (service.handleStorageResult serde sys msg) := by
  refine reads_parse ?_
  rw [ZeroOS.VfsService.handleStorageResult]
  cases parseStorageResult msg.data <;> rfl

lemma VfsService.onMessage_reads {service : VfsService} :
    Reads (msg.tag = MSG_STORAGE_RESULT ∧ ResultWraps msg.data)
      (onMessage serde sys service msg) (service.onMessage serde sys msg) :=
  handleStorageResult_reads.dispatch

lemma KeystoreService.handleKeystoreResult_reads {service : KeystoreService} :
    Reads (ResultWraps msg.data) (handleKeystoreResult serde sys service msg)
      (service.handleKeystoreResult serde sys msg) := by
  refine reads_parse ?_
  rw [ZeroOS.KeystoreService.handleKeystoreResult]
  cases parseStorageResult msg.data <;> rfl

lemma KeystoreService.onMessage_reads {service : KeystoreService} :
    Reads (msg.tag = Keystore.MSG_KEYSTORE_RESULT ∧ ResultWraps msg.data)
      (onMessage serde sys service msg) (service.onMessage serde sys msg) :=
  handleKeystoreResult_reads.dispatch

lemma NetworkService.handleNetResult_reads {service : NetworkService} :
    Reads (ResultWraps msg.data) (handleNetResult lossy service msg)
      (service.handleNetResult lossy msg) := by
  refine reads_parse ?_
  rw [ZeroOS.NetworkService.handleNetResult]
  cases parseStorageResult msg.data <;> rfl

variable {σ κ ν η : Type} {flows : Identity.Flows σ κ ν η} {service : IdentityService σ κ ν}

lemma IdentityService.handleNetResult_reads :
    Reads (ResultWraps msg.data) (handleNetResult flows sys service msg)
      (service.handleNetResult flows sys msg) := by
  refine reads_parse ?_
  rw [ZeroOS.IdentityService.handleNetResult]
  cases parseStorageResult msg.data <;> rfl

end

-- What is read of a message: the data is the number of bytes that the header says, and empty
-- where there are fewer.
def exactResult (bytes : List UInt8) : Option StorageResult :=
  if bytes.length < 9 then none
  else
    let dataLen := (leWord32 (bytes.drop 5)).toNat
    some ⟨leWord32 bytes, bytes.getD 4 0,
      if 9 + dataLen ≤ bytes.length then (bytes.drop 9).take dataLen else []⟩

lemma parseStorageResult_eq_exact : parseStorageResult bytes = exactResult bytes := by
  unfold parseStorageResult exactResult
  by_cases hs : bytes.length < 9
  · rw [if_pos hs, if_pos hs]
  by_cases he : (leWord32 (bytes.drop 5)).toNat = 0
  · simp [he]
  · simp only [Nat.pos_of_ne_zero he, true_and]

-- Every result message is read without leaving the bounds and as it is meant, by all four
-- services, exactly if its length does not wrap.
theorem results_safe_iff {σ κ ν η : Type} (vfsSerde : Serde) (vfsSys : Vfs.Syscalls)
    (vfs : VfsService) (keystoreSerde : Keystore.Serde) (keystoreSys : Keystore.Syscalls)
    (keystore : KeystoreService) (lossy : List UInt8 → String) (network : NetworkService)
    (flows : Identity.Flows σ κ ν η) (identitySys : Identity.Syscalls)
    (identity : IdentityService σ κ ν) (msg : AppMessage) :
    (parseResult msg.data = .ok (exactResult msg.data) ∧
        VfsService.handleStorageResult vfsSerde vfsSys vfs msg =
          .ok (vfs.handleStorageResult vfsSerde vfsSys msg) ∧
        KeystoreService.handleKeystoreResult keystoreSerde keystoreSys keystore msg =
          .ok (keystore.handleKeystoreResult keystoreSerde keystoreSys msg) ∧
        NetworkService.handleNetResult lossy network msg =
          .ok (network.handleNetResult lossy msg) ∧
        IdentityService.handleNetResult flows identitySys identity msg =
          .ok (identity.handleNetResult flows identitySys msg)) ↔
      ¬ ResultWraps msg.data := by
  constructor
  · rintro ⟨hp, -⟩ hw
    rw [parseResult_of_wraps hw] at hp
    cases hp
  · intro hf
    have hp := parseResult_of_fits hf
    exact ⟨hp.trans (congrArg _ parseStorageResult_eq_exact),
      VfsService.handleStorageResult_reads.fits hf,
      KeystoreService.handleKeystoreResult_reads.fits hf,
      NetworkService.handleNetResult_reads.fits hf, IdentityService.handleNetResult_reads.fits hf⟩

-- Nine bytes from anyone: the sum of the header and the length is 8, which passes the check.
theorem result_aborts :
    VfsService.handleStorageResult VfsJson.serde (VfsJson.nextId 1) ⟨∅⟩
        ⟨MSG_STORAGE_RESULT, 11, [], [0, 0, 0, 0, 0, 255, 255, 255, 255]⟩ =
      .error ⟨9, 8, 9⟩ :=
  rfl

end Browser

end ZeroOS
