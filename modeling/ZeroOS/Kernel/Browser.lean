import ZeroOS.Process.Mailbox

/-!
The dispatcher in the browser build, where `usize` has 32 bits and sums wrap.
-/

namespace ZeroOS.Browser

open List
open Slice

def keyedWrite (data : List UInt8)
    (request : String → List UInt8 → Except HalError StorageRequestId) : Except OutOfRange Int64 :=
  if data.length < 4 then .ok (-1)
  else
    let keyLen := leWord32 data
    if data.length < (4 + keyLen).toNat then .ok (-1)
    else do
      let keyBytes ← slice data 4 (4 + keyLen)
      match fromUtf8 keyBytes with
      | none => .ok (-1)
      | some key =>
        let value ← sliceFrom data (4 + keyLen)
        .ok (requestResult (request key value))

section

variable (hal : Hal) (syscallNum : UInt32) (sender : ProcessId)

def executeStorageWrite (data : List UInt8) : Except OutOfRange Int64 :=
  keyedWrite data (hal.storageWriteAsync sender)

def executeStorageSyscall (data : List UInt8) : Except OutOfRange Int64 :=
  if syscallNum = 0x70 then .ok (executeStorageRead hal sender data)
  else if syscallNum = 0x71 then executeStorageWrite hal sender data
  else if syscallNum = 0x72 then .ok (executeStorageDelete hal sender data)
  else if syscallNum = 0x73 then .ok (executeStorageList hal sender data)
  else if syscallNum = 0x74 then .ok (executeStorageExists hal sender data)
  else .ok (-1)

def executeKeystoreWrite (data : List UInt8) : Except OutOfRange Int64 :=
  keyedWrite data (hal.keystoreWriteAsync sender)

def executeKeystoreSyscall (data : List UInt8) : Except OutOfRange Int64 :=
  if syscallNum = 0x80 then .ok (executeKeystoreRead hal sender data)
  else if syscallNum = 0x81 then executeKeystoreWrite hal sender data
  else if syscallNum = 0x82 then .ok (executeKeystoreDelete hal sender data)
  else if syscallNum = 0x83 then .ok (executeKeystoreList hal sender data)
  else if syscallNum = 0x84 then .ok (executeKeystoreExists hal sender data)
  else .ok (-1)

end

def executeSpawnProcess (kernel : KernelCore) (hal : Hal) (sender : ProcessId)
    (data : List UInt8) (timestamp : UInt64) : Except OutOfRange RawOutcome :=
  if sender ≠ INIT then .ok { kernel, result := SyscallError.PERMISSION_DENIED }
  else if data.length < 4 then .ok { kernel, result := SyscallError.INVALID_ARGUMENT }
  else
    let nameLen := leWord32 data
    if data.length < (4 + nameLen).toNat then
      .ok { kernel, result := SyscallError.INVALID_ARGUMENT }
    else do
      let nameBytes ← slice data 4 (4 + nameLen)
      match fromUtf8 nameBytes with
      | none => .ok { kernel, result := SyscallError.INVALID_UTF8 }
      | some name =>
        let binary ← sliceFrom data (4 + nameLen)
        if binary = [] then .ok { kernel, result := SyscallError.INVALID_ARGUMENT }
        else
          let (kernel, pid, commits) := kernel.registerProcess name timestamp
          let result := match hal.spawnProcessWithPid pid name binary with
            | .ok () => pid.toInt64
            | .error _ => SyscallError.SPAWN_FAILED
          .ok { kernel, result, commits := commitTypesOf commits }

def executeProcessSyscall (kernel : KernelCore) (hal : Hal) (syscallNum : UInt32)
    (sender : ProcessId) (args : SyscallArgs) (data : List UInt8) (timestamp : UInt64) :
    Except OutOfRange RawOutcome :=
  if syscallNum = 0x17 then executeSpawnProcess kernel hal sender data timestamp
  else .ok (kernel.executeProcessSyscall hal syscallNum sender args data timestamp)

def executeSyscallKernelFn (kernel : KernelCore) (hal : Hal) (syscallNum : UInt32)
    (sender : ProcessId) (args : SyscallArgs) (data : List UInt8) (timestamp : UInt64) :
    Except OutOfRange RawOutcome :=
  if syscallNum ≤ 0x07 then
    .ok { kernel, result := executeBasicSyscall hal syscallNum sender args }
  else if 0x11 ≤ syscallNum ∧ syscallNum ≤ 0x17 then
    executeProcessSyscall kernel hal syscallNum sender args data timestamp
  else if syscallNum = 0x30 ∨ syscallNum = 0x31 ∨ syscallNum = 0x35 then
    .ok (kernel.executeCapabilitySyscall syscallNum sender args timestamp)
  else if syscallNum = 0x40 ∨ syscallNum = 0x41 then
    .ok (kernel.executeIpcSyscall syscallNum sender args data timestamp)
  else if syscallNum = 0x50 then .ok { kernel, result := 0 }
  else if 0x70 ≤ syscallNum ∧ syscallNum ≤ 0x74 then do
    let result ← executeStorageSyscall hal syscallNum sender data
    .ok { kernel, result }
  else if 0x80 ≤ syscallNum ∧ syscallNum ≤ 0x84 then do
    let result ← executeKeystoreSyscall hal syscallNum sender data
    .ok { kernel, result }
  else if syscallNum = 0x90 then .ok { kernel, result := executeNetworkSyscall hal sender data }
  else .ok { kernel, result := -1 }

def processSyscall (system : System) (hal : Hal) (sender : ProcessId) (syscallNum : UInt32)
    (args : SyscallArgs) (data : List UInt8) :
    Except OutOfRange (System × Int64 × SyscallResult × List UInt8) := do
  let timestamp := system.uptimeNanos hal
  let (reqId, syslog) := system.gateway.syslog.logRequest sender syscallNum args timestamp
  let gateway := { system.gateway with syslog }
  let raw ← executeSyscallKernelFn system.kernel hal syscallNum sender args data timestamp
  let gateway := gateway.appendAll raw.commits timestamp
  let rich := raw.kernel.getSyscallRichResult sender syscallNum args raw.result timestamp
  let gateway := gateway.appendAll rich.commits timestamp
  let gateway := { gateway with
    syslog := gateway.syslog.logResponse sender reqId raw.result timestamp }
  let responseData := if raw.data ≠ [] then raw.data else rich.data
  .ok ({ system with gateway, kernel := rich.kernel }, raw.result, rich.result, responseData)

-- The length word of the data, with the header in front of what it counts, does not fit.
def LengthWraps (data : List UInt8) : Prop := 4 ≤ data.length ∧ Wraps 4 (leWord32 data)

instance (data : List UInt8) : Decidable (LengthWraps data) :=
  inferInstanceAs (Decidable (4 ≤ data.length ∧ Wraps 4 (leWord32 data)))

-- The calls that read a length from their data.
def CutsData (syscallNum : UInt32) (sender : ProcessId) : Prop :=
  syscallNum = 0x71 ∨ syscallNum = 0x81 ∨ (syscallNum = 0x17 ∧ sender = INIT)

instance (syscallNum : UInt32) (sender : ProcessId) : Decidable (CutsData syscallNum sender) :=
  inferInstanceAs (Decidable (_ ∨ _ ∨ _))

lemma splitPrefixed_eq :
    splitPrefixed data =
      if data.length < 4 then none
      else if data.length < 4 + (leWord32 data).toNat then none
      else some ((data.drop 4).take (leWord32 data).toNat,
        (data.drop 4).drop (leWord32 data).toNat) := by
  match data with
  | [] | [_] | [_, _] | [_, _, _] => rfl
  | b0 :: b1 :: b2 :: b3 :: body =>
    have hl : ¬ (b0 :: b1 :: b2 :: b3 :: body).length < 4 := by simp
    have hb : (b0 :: b1 :: b2 :: b3 :: body).length < 4 + (leU32 b0 b1 b2 b3).toNat ↔
        body.length < (leU32 b0 b1 b2 b3).toNat := by
      simp
      omega
    simp only [splitPrefixed, leWord32, if_neg hl, hb, drop_succ_cons, drop_zero]

lemma slices_of_fits (hf : ¬ LengthWraps data) (ho : ¬ data.length < 4) :
    (4 + leWord32 data).toNat = 4 + (leWord32 data).toNat ∧
      (¬ data.length < (4 + leWord32 data).toNat →
        slice data 4 (4 + leWord32 data) = .ok ((data.drop 4).take (leWord32 data).toNat) ∧
        sliceFrom data (4 + leWord32 data) = .ok ((data.drop 4).drop (leWord32 data).toNat)) := by
  have hn : ¬ Wraps 4 (leWord32 data) := fun h => hf ⟨Nat.le_of_not_lt ho, h⟩
  refine ⟨toNat_add_of_not_wraps hn, fun hc => ?_⟩
  have hl := Nat.le_of_not_lt hc
  exact ⟨slice_of_fits hn hl, sliceFrom_of_fits hn hl⟩

lemma slice_of_lengthWraps (hw : LengthWraps data) :
    ¬ data.length < 4 ∧ ¬ data.length < (4 + leWord32 data).toNat ∧
      slice data 4 (4 + leWord32 data) = .error ⟨4, (4 + leWord32 data).toNat, data.length⟩ := by
  have ht : (4 + leWord32 data).toNat < 4 := toNat_add_lt_of_wraps hw.2
  have hl := hw.1
  exact ⟨by omega, by omega, slice_of_wraps hw.2⟩

lemma keyedWrite_of_wraps (hw : LengthWraps data)
    (req : String → List UInt8 → Except HalError StorageRequestId) :
    keyedWrite data req = .error ⟨4, (4 + leWord32 data).toNat, data.length⟩ := by
  obtain ⟨hl, hp, hs⟩ := slice_of_lengthWraps hw
  rw [keyedWrite, if_neg hl]
  rw [if_neg hp, hs]
  rfl

lemma keyedWrite_of_fits (hf : ¬ LengthWraps data) :
    keyedWrite data req = .ok (ZeroOS.keyedWrite data req) := by
  rw [keyedWrite, ZeroOS.keyedWrite, splitPrefixed_eq]
  by_cases hl : data.length < 4
  · rw [if_pos hl, if_pos hl]
  obtain ⟨hs, hsl⟩ := slices_of_fits hf hl
  rw [if_neg hl, if_neg hl]
  by_cases hc : data.length < (4 + leWord32 data).toNat
  · rw [if_pos hc, if_pos (hs ▸ hc)]
  obtain ⟨hk, hv⟩ := hsl hc
  rw [if_neg hc, if_neg (hs ▸ hc), hk]
  simp only [bind, Except.bind, hv]
  cases fromUtf8 ((data.drop 4).take (leWord32 data).toNat) with
  | none | some => rfl

section

variable (kernel : KernelCore) (hal : Hal) (sender : ProcessId) (timestamp : UInt64)

lemma executeSpawnProcess_of_wraps (hw : LengthWraps data) :
    executeSpawnProcess kernel hal INIT data timestamp =
      .error ⟨4, (4 + leWord32 data).toNat, data.length⟩ := by
  obtain ⟨hl, hp, hs⟩ := slice_of_lengthWraps hw
  rw [executeSpawnProcess, if_neg hl]
  rw [if_neg hp, hs]
  rfl

lemma executeSpawnProcess_of_fits (hf : ¬ (sender = INIT ∧ LengthWraps data)) :
    executeSpawnProcess kernel hal sender data timestamp =
      .ok (kernel.executeSpawnProcess hal sender data timestamp) := by
  rw [executeSpawnProcess, KernelCore.executeSpawnProcess, splitPrefixed_eq]
  by_cases hi : sender = INIT
  swap
  · rw [if_pos hi, if_pos hi]
  rw [if_neg (not_not_intro hi), if_neg (not_not_intro hi)]
  by_cases hl : data.length < 4
  · rw [if_pos hl, if_pos hl]
  obtain ⟨hs, hsl⟩ := slices_of_fits (fun h => hf ⟨hi, h⟩) hl
  rw [if_neg hl, if_neg hl]
  by_cases hc : data.length < (4 + leWord32 data).toNat
  · rw [if_pos hc, if_pos (hs ▸ hc)]
  obtain ⟨hn, hb⟩ := hsl hc
  rw [if_neg hc, if_neg (hs ▸ hc), hn]
  simp only [bind, Except.bind, hb]
  cases fromUtf8 ((data.drop 4).take (leWord32 data).toNat) with
  | none => rfl
  | some =>
    dsimp only
    by_cases he : (data.drop 4).drop (leWord32 data).toNat = []
    · rw [if_pos he, if_pos he]
    · rw [if_neg he]
      exact congrArg Except.ok (if_neg he).symm

lemma executeSyscallKernelFn_of_wraps (args : SyscallArgs) (hc : CutsData syscallNum sender)
    (hw : LengthWraps data) :
    executeSyscallKernelFn kernel hal syscallNum sender args data timestamp =
      .error ⟨4, (4 + leWord32 data).toNat, data.length⟩ := by
  rcases hc with rfl | rfl | ⟨rfl, rfl⟩
  · have hr := keyedWrite_of_wraps hw (hal.storageWriteAsync sender)
    simp [executeSyscallKernelFn, executeStorageSyscall, executeStorageWrite, hr, bind, Except.bind]
  · have hr := keyedWrite_of_wraps hw (hal.keystoreWriteAsync sender)
    simp [executeSyscallKernelFn, executeKeystoreSyscall, executeKeystoreWrite, hr, bind,
      Except.bind]
  · simp [executeSyscallKernelFn, executeProcessSyscall,
      executeSpawnProcess_of_wraps kernel hal timestamp hw]

variable (hf : ¬ (CutsData syscallNum sender ∧ LengthWraps data))

include hf

lemma executeStorageSyscall_of_fits :
    executeStorageSyscall hal syscallNum sender data =
      .ok (ZeroOS.executeStorageSyscall hal syscallNum sender data) := by
  unfold executeStorageSyscall ZeroOS.executeStorageSyscall
  split_ifs with h70 h71
  all_goals try rfl
  exact keyedWrite_of_fits (fun h => hf ⟨.inl h71, h⟩)

lemma executeKeystoreSyscall_of_fits :
    executeKeystoreSyscall hal syscallNum sender data =
      .ok (ZeroOS.executeKeystoreSyscall hal syscallNum sender data) := by
  unfold executeKeystoreSyscall ZeroOS.executeKeystoreSyscall
  split_ifs with h80 h81
  all_goals try rfl
  exact keyedWrite_of_fits (fun h => hf ⟨.inr (.inl h81), h⟩)

lemma executeProcessSyscall_of_fits :
    executeProcessSyscall kernel hal syscallNum sender args data timestamp =
      .ok (kernel.executeProcessSyscall hal syscallNum sender args data timestamp) := by
  unfold executeProcessSyscall
  split_ifs with h17
  · rw [executeSpawnProcess_of_fits kernel hal sender timestamp
      (fun h => hf ⟨.inr (.inr ⟨h17, h.1⟩), h.2⟩)]
    simp [KernelCore.executeProcessSyscall, h17]
  · rfl

lemma executeSyscallKernelFn_of_fits (args : SyscallArgs) :
    executeSyscallKernelFn kernel hal syscallNum sender args data timestamp =
      .ok (kernel.executeSyscallKernelFn hal syscallNum sender args data timestamp) := by
  unfold executeSyscallKernelFn KernelCore.executeSyscallKernelFn
  rw [executeStorageSyscall_of_fits hal sender hf, executeKeystoreSyscall_of_fits hal sender hf,
    executeProcessSyscall_of_fits kernel hal sender timestamp hf]
  split_ifs
  all_goals rfl

end

section

variable (system : System) (hal : Hal) (sender : ProcessId) (args : SyscallArgs)

lemma processSyscall_of_wraps (hc : CutsData syscallNum sender) (hw : LengthWraps data) :
    processSyscall system hal sender syscallNum args data =
      .error ⟨4, (4 + leWord32 data).toNat, data.length⟩ := by
  have hr := executeSyscallKernelFn_of_wraps system.kernel hal sender (system.uptimeNanos hal)
    args hc hw
  simp only [processSyscall, hr]
  rfl

lemma processSyscall_of_fits (hf : ¬ (CutsData syscallNum sender ∧ LengthWraps data)) :
    processSyscall system hal sender syscallNum args data =
      .ok (system.processSyscall hal sender syscallNum args data) := by
  have hr := executeSyscallKernelFn_of_fits system.kernel hal sender (system.uptimeNanos hal)
    hf args
  simp only [processSyscall, hr]
  rfl

end

def writePayload (key : String) (value : List UInt8) : List UInt8 :=
  (leBytes32 (UInt32.ofNat (utf8Bytes key).length)).toList ++ utf8Bytes key ++ value

-- What a write returns when the platform is handed the key and the value that the data encodes,
-- and is not called for any other data.
structure HandsOver (data : List UInt8)
    (request : String → List UInt8 → Except HalError StorageRequestId) (result : Int64) : Prop where
  encoded : ∀ key value, data = writePayload key value → result = requestResult (request key value)
  other : (∀ key value, data ≠ writePayload key value) → result = -1

lemma splitPrefixed_writePayload (hk : (utf8Bytes key).length < 4294967296) :
    splitPrefixed (writePayload key value) = some (utf8Bytes key, value) := by
  have hw : leWord32 (writePayload key value) = UInt32.ofNat (utf8Bytes key).length := by
    exact leWord32_leBytes32 ..
  have hc : (UInt32.ofNat (utf8Bytes key).length).toNat = (utf8Bytes key).length := by
    rw [UInt32.toNat_ofNat', Nat.mod_eq_of_lt hk]
  have hl : (writePayload key value).length = 4 + (utf8Bytes key).length + value.length := by
    simp [writePayload]
    omega
  have hb : (writePayload key value).drop 4 = utf8Bytes key ++ value := by
    rfl
  rw [splitPrefixed_eq, if_neg (by omega), hw, hc, if_neg (by omega), hb,
    take_left, drop_left]

lemma eq_writePayload_of_splitPrefixed (hs : splitPrefixed data = some (keyBytes, value))
    (hk : fromUtf8 keyBytes = some key) : data = writePayload key value := by
  obtain rfl := utf8Bytes_of_fromUtf8 hk
  match data, hs with
  | b0 :: b1 :: b2 :: b3 :: _, hs =>
    simp only [splitPrefixed] at hs
    split_ifs at hs with hh
    obtain ⟨ht, hd⟩ := Prod.mk.inj (Option.some.inj hs)
    have hc : (utf8Bytes key).length = (leU32 b0 b1 b2 b3).toNat := by
      rw [← ht, length_take]
      omega
    rw [writePayload, hc, UInt32.ofNat_toNat, leBytes32_leU32, ← ht, ← hd,
      append_assoc, take_append_drop]
    rfl

lemma handsOver_keyedWrite (hd : data.length ≤ MAILBOX_MAX_DATA_LEN) :
    HandsOver data req (ZeroOS.keyedWrite data req) := by
  constructor
  · rintro key value rfl
    have hk : (utf8Bytes key).length < 4294967296 := by
      simp only [writePayload, length_append, MAILBOX_MAX_DATA_LEN] at hd
      omega
    rw [ZeroOS.keyedWrite, splitPrefixed_writePayload hk]
    dsimp only
    rw [fromUtf8_utf8Bytes]
  · intro ho
    rw [ZeroOS.keyedWrite]
    cases hs : splitPrefixed data with
    | none => rfl
    | some parts =>
      dsimp only
      cases hk : fromUtf8 parts.1 with
      | none => rfl
      | some => exact absurd (eq_writePayload_of_splitPrefixed hs hk) (ho _ _)

theorem processSyscall_safe_iff (system : System) (hal : Hal) (sender : ProcessId)
    (syscallNum : UInt32) (args : SyscallArgs) (data : List UInt8)
    (hdata : data.length ≤ MAILBOX_MAX_DATA_LEN) :
    (∃ outcome, processSyscall system hal sender syscallNum args data = .ok outcome ∧
        (syscallNum = 0x71 → HandsOver data (hal.storageWriteAsync sender) outcome.2.1) ∧
        (syscallNum = 0x81 → HandsOver data (hal.keystoreWriteAsync sender) outcome.2.1)) ↔
      ¬ (CutsData syscallNum sender ∧ LengthWraps data) := by
  constructor
  · rintro ⟨outcome, ho, -⟩ ⟨hc, hw⟩
    rw [processSyscall_of_wraps system hal sender args hc hw] at ho
    cases ho
  · intro hf
    refine ⟨_, processSyscall_of_fits _ hal _ _ hf, ?_, ?_⟩
    · rintro rfl
      exact handsOver_keyedWrite hdata
    · rintro rfl
      exact handsOver_keyedWrite hdata

theorem processSyscall_safe_write :
    ∃ outcome, processSyscall (System.new (Hal.unsupported 0)) (Hal.unsupported 0) 10 0x71
        #v[0, 0, 0, 0] (writePayload "k" [7]) = .ok outcome ∧
      HandsOver (writePayload "k" [7]) ((Hal.unsupported 0).storageWriteAsync 10) outcome.2.1 := by
  obtain ⟨outcome, ho, hs, -⟩ :=
    (processSyscall_safe_iff (System.new (Hal.unsupported 0)) (Hal.unsupported 0) 10 0x71
      #v[0, 0, 0, 0] (writePayload "k" [7]) (by decide)).mpr (by decide)
  exact ⟨outcome, ho, hs rfl⟩

-- Any process can stop the kernel with four bytes.
theorem processSyscall_aborts :
    ([0xff, 0xff, 0xff, 0xff] : List UInt8).length ≤ MAILBOX_MAX_DATA_LEN ∧
      processSyscall (System.new (Hal.unsupported 0)) (Hal.unsupported 0) 10 0x71 #v[0, 0, 0, 0]
        [0xff, 0xff, 0xff, 0xff] = .error ⟨4, 3, 4⟩ :=
  ⟨by decide, processSyscall_of_wraps _ _ _ _ (by decide) (by decide)⟩

end ZeroOS.Browser
