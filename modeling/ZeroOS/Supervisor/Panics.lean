import ZeroOS.Supervisor.Authority

/-!
The texts of a process at which the supervisor stops.
-/

namespace ZeroOS

-- The number that the next two bytes spell.
def hexPair? : List UInt8 → Option Nat
  | first :: second :: _ =>
    Text.parseUnsigned 16 256 [Char.ofNat first.toNat, Char.ofNat second.toNat]
  | _ => none

-- After some pairs of hexadecimal digits comes a slice of two bytes that ends inside a character.
def CutsCharacter (bytes : List UInt8) : Prop :=
  ∃ k, (bytes.drop (2 * k + 2)).head?.any Text.isContinuation ∧
    ∀ j < k, (hexPair? (bytes.drop (2 * j))).isSome

lemma cutsCharacter_cons :
    CutsCharacter (first :: second :: rest) ↔
      rest.head?.any Text.isContinuation ∨
        (hexPair? (first :: second :: rest)).isSome ∧ CutsCharacter rest := by
  have hd (k : Nat) : (first :: second :: rest).drop (2 * (k + 1)) = rest.drop (2 * k) := rfl
  constructor
  · rintro ⟨k, he, ha⟩
    cases k with
    | zero => exact .inl he
    | succ k =>
      refine .inr ⟨ha 0 (Nat.succ_pos k), k, he, fun j hj => ?_⟩
      rw [← hd]
      exact ha (j + 1) (Nat.succ_lt_succ hj)
  · rintro (he | ⟨hp, k, he, ha⟩)
    · exact ⟨0, he, fun _ hj => absurd hj (Nat.not_lt_zero _)⟩
    · refine ⟨k + 1, he, fun j hj => ?_⟩
      cases j with
      | zero => exact hp
      | succ j =>
        rw [hd]
        exact ha j (Nat.lt_of_succ_lt_succ hj)

-- Induction along the pairs, as the loop reads them.
lemma hexPairs_panics_iff :
    hexPairs bytes = .error (.Panicked .NotCharBoundary) ↔ CutsCharacter bytes := by
  induction bytes using hexPairs.induct with
  | case1 first second rest he =>
    rw [cutsCharacter_cons, hexPairs, if_pos he]
    exact iff_of_true rfl (.inl he)
  | case2 first second rest he hn =>
    rw [cutsCharacter_cons, hexPairs, if_neg he, hn]
    simp [he, hexPair?, hn]
  | case3 first second rest he value hs ih =>
    rw [cutsCharacter_cons, ← ih, hexPairs, if_neg he, hs]
    cases hexPairs rest <;> simp [he, hexPair?, hs, Except.map]
  | case4 bytes hh =>
    rcases bytes with - | ⟨first, - | ⟨second, rest⟩⟩
    · simp [hexPairs, CutsCharacter]
    · simp [hexPairs, CutsCharacter]
    · exact (hh first second rest rfl).elim

-- A field that the supervisor cannot decode and does not refuse.
def CutsField (hex : List Char) : Prop :=
  (utf8Bytes (String.ofList hex)).length % 2 = 0 ∧ CutsCharacter (utf8Bytes (String.ofList hex))

lemma hexToBytes_panics_iff :
    hexToBytes hex = .error (.Panicked .NotCharBoundary) ↔ CutsField hex := by
  rw [hexToBytes, CutsField, ← hexPairs_panics_iff]
  by_cases he : (utf8Bytes (String.ofList hex)).length % 2 = 0
  · simp [he]
  · simp [he]

-- The field of a VFS or keystore response that is decoded, if the fields before it are numbers.
def responseField (text : List Char) : Option (List Char) :=
  match Text.splitn 3 ':' text with
  | [pid, tag, hex] =>
    if (Text.parseU32 pid).isSome ∧ (Text.parseUnsigned 16 4294967296 tag).isSome then some hex
    else none
  | _ => none

lemma parseResponse_panics_iff :
    parseResponse text = .error (.InvalidHex (.Panicked .NotCharBoundary)) ↔
      ∃ hex, responseField text = some hex ∧ CutsField hex := by
  simp only [← hexToBytes_panics_iff]
  rw [parseResponse, responseField]
  rcases Text.splitn 3 ':' text with - | ⟨pid, - | ⟨tag, - | ⟨hex, - | ⟨_, _⟩⟩⟩⟩
  · simp
  · simp
  · simp
  · cases hp : Text.parseU32 pid with
    | none => simp [hp]
    | some toPid =>
      cases ht : Text.parseUnsigned 16 4294967296 tag with
      | none => simp [hp, ht]
      | some tag => cases hh : hexToBytes hex <;> simp [hp, ht, hh]
  · simp

def serviceField (text : List Char) : Option (List Char) :=
  match Text.splitn 3 ':' text with
  | [_, _, hex] => some hex
  | _ => none

namespace SupervisorState

variable (state : SupervisorState) (pid : ProcessId) (args : Vector UInt32 3) (data : List UInt8)

-- The part of a text that is decoded, if there is one.
def hexField (msg : List Char) : Option (List Char) :=
  let channel := DebugChannel.ofText msg
  let text := channel.rest msg
  match channel with
  | .SpawnResponse | .EndpointResponse | .CapResponse => some text
  | .VfsResponse | .KeystoreResponse => responseField text
  | .ServiceResponse => if state.ipcResponseCallback.isSome then serviceField text else none
  | _ => none

-- The texts that stop the supervisor: on the debug channel, and for the console.
def CutsDebug : Prop :=
  ∃ msg hex, fromUtf8 data = some msg ∧ state.hexField msg.toList = some hex ∧ CutsField hex

def CutsPreview (data : List UInt8) : Prop :=
  (fromUtf8 data).isSome ∧ data.length > 200 ∧ ¬ Text.isCharBoundary data 200

lemma decodeAndLog_panics_iff :
    (state.decodeAndLog text).2 = .error .NotCharBoundary ↔ CutsField text := by
  rw [← hexToBytes_panics_iff, decodeAndLog]
  rcases hexToBytes text with (_ | _ | ⟨⟨⟩⟩) | _ <;> simp

lemma handleDebugResponse_panics_iff :
    (state.handleDebugResponse text).2 = .error .NotCharBoundary ↔
      ∃ hex, responseField text = some hex ∧ CutsField hex := by
  rw [← parseResponse_panics_iff, handleDebugResponse]
  rcases parseResponse text with (_ | _ | _ | (_ | _ | ⟨⟨⟩⟩)) | _ <;> simp

lemma handleDebugServiceResponse_panics_iff :
    (state.handleDebugServiceResponse text).2 = .error .NotCharBoundary ↔
      ∃ hex, (if state.ipcResponseCallback.isSome then serviceField text else none) = some hex ∧
        CutsField hex := by
  simp only [← hexToBytes_panics_iff]
  rw [handleDebugServiceResponse, serviceField]
  rcases Text.splitn 3 ':' text with - | ⟨_, - | ⟨requestId, - | ⟨hex, - | ⟨_, _⟩⟩⟩⟩
  · simp
  · simp
  · simp
  · cases state.ipcResponseCallback with
    | none => simp
    | some =>
      rcases he : hexToBytes hex with (_ | _ | ⟨⟨⟩⟩) | bytes
      · simp [he]
      · simp [he]
      · simp [he]
      · cases hj : fromUtf8 bytes <;> simp [he, hj]
  · simp

lemma dispatchDebugMessage_panics_iff (msg : String) :
    (state.dispatchDebugMessage pid msg).2 = .error .NotCharBoundary ↔
      ∃ hex, state.hexField msg.toList = some hex ∧ CutsField hex := by
  rw [dispatchDebugMessage, hexField]
  cases DebugChannel.ofText msg.toList with
  | ServiceResponse => exact state.handleDebugServiceResponse_panics_iff
  | VfsResponse => exact state.handleDebugResponse_panics_iff
  | KeystoreResponse => exact state.handleDebugResponse_panics_iff
  | SpawnResponse => simpa [handleInitSpawnResponse] using state.decodeAndLog_panics_iff
  | EndpointResponse => simpa [handleInitEndpointResponse] using state.decodeAndLog_panics_iff
  | CapResponse => simpa [handleInitCapResponse] using state.decodeAndLog_panics_iff
  | _ => simp

lemma hexField_gatewayCall {args : SyscallArgs} :
    (state.gatewayCall pid syscallNum args data).1.hexField msg = state.hexField msg := rfl

lemma handleSysDebug_panics_iff :
    (state.handleSysDebug pid data).2 = .error .NotCharBoundary ↔ state.CutsDebug data := by
  rw [handleSysDebug, CutsDebug]
  cases hd : fromUtf8 data with
  | none => simp
  | some msg =>
    have hi := (state.gatewayCall pid SYS_DEBUG .zero data).1.dispatchDebugMessage_panics_iff pid msg
    rw [hexField_gatewayCall] at hi
    simp only [Option.some.injEq, exists_and_left, exists_eq_left', ← hi]
    cases ((state.gatewayCall pid SYS_DEBUG .zero data).1.dispatchDebugMessage pid msg).2 <;>
      simp [Except.map]

lemma handleSysConsoleWrite_panics_iff :
    (state.handleSysConsoleWrite pid data).2 = .error .NotCharBoundary ↔ CutsPreview data := by
  rw [handleSysConsoleWrite, CutsPreview]
  cases hd : fromUtf8 data with
  | none => simp
  | some text =>
    simp only [Option.isSome_some, true_and]
    split
    · exact iff_of_true rfl ‹_›
    · exact iff_of_false (by simp) ‹_›

theorem process_text_panics_iff :
    ((state.processSyscallInternal pid SYS_DEBUG args data).2 = .error .NotCharBoundary ↔
      pid ∈ state.system.kernel.processes ∧ state.CutsDebug data) ∧
    ((state.processSyscallInternal pid SYS_CONSOLE_WRITE args data).2 = .error .NotCharBoundary ↔
      pid ∈ state.system.kernel.processes ∧ CutsPreview data) := by
  by_cases hp : pid ∈ state.system.kernel.processes
  · have hd : state.processSyscallInternal pid SYS_DEBUG args data =
        state.handleSysDebug pid data := if_neg (not_not_intro hp)
    have hw : state.processSyscallInternal pid SYS_CONSOLE_WRITE args data =
        state.handleSysConsoleWrite pid data := if_neg (not_not_intro hp)
    rw [hd, hw, handleSysDebug_panics_iff, handleSysConsoleWrite_panics_iff]
    exact ⟨(and_iff_right hp).symm, (and_iff_right hp).symm⟩
  · simp [processSyscallInternal, hp]

theorem spawnResponse_panics :
    (booted.processSyscallInternal 10 SYS_DEBUG (.replicate 3 0)
      (utf8Bytes "SPAWN:RESPONSE:aéa")).2 = .error .NotCharBoundary := by
  decide +kernel

end SupervisorState

end ZeroOS
