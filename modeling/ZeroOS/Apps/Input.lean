import ZeroOS.Init.Delivery

/-!
The input events of the apps on the wire (`zos-apps/src/protocol/input.rs`, `wire_format.rs`).
-/

namespace ZeroOS

open List

inductive ProtocolError where
  | TooShort
  | UnknownVersion (version : UInt8)
  | PayloadOverflow (declared available : Nat)
  | StringOverflow (declared available : Nat)
  | InvalidUtf8
  | EmptyPayload
  | UnexpectedType (expected got : UInt8)
  | UnknownMessageType (tag : UInt8)
deriving DecidableEq

def PROTOCOL_VERSION : UInt8 := 0x01

structure Envelope where
  version : UInt8
  typeTag : UInt8
  payload : List UInt8
deriving DecidableEq

def Envelope.new (typeTag : UInt8) (payload : List UInt8) : Envelope :=
  ⟨PROTOCOL_VERSION, typeTag, payload⟩

-- The length is what is left of it in 16 bits.
def encodeEnvelope (envelope : Envelope) : List UInt8 :=
  envelope.version :: envelope.typeTag ::
    (leBytes16 (UInt16.ofNat envelope.payload.length) ++ envelope.payload)

def decodeEnvelope : List UInt8 → Except ProtocolError Envelope
  | version :: typeTag :: b0 :: b1 :: rest =>
    if version ≠ PROTOCOL_VERSION then .error (.UnknownVersion version)
    else
      let payloadLen := (leWord16 [b0, b1]).toNat
      if rest.length < payloadLen then .error (.PayloadOverflow payloadLen rest.length)
      else .ok ⟨version, typeTag, rest.take payloadLen⟩
  | _ => .error .TooShort

def encodeString (s : String) : List UInt8 :=
  leBytes16 (UInt16.ofNat (utf8Bytes s).length) ++ utf8Bytes s

section

variable (data : List UInt8) (cursor : Nat)

-- The decoders return the cursor behind what they have read.
def decodeString : Except ProtocolError (String × Nat) :=
  if cursor + 2 > data.length then .error .TooShort
  else
    let len := (leWord16 (data.drop cursor)).toNat
    let cursor := cursor + 2
    if cursor + len > data.length then .error (.StringOverflow len (data.length - cursor))
    else
      match fromUtf8 ((data.drop cursor).take len) with
      | none => .error .InvalidUtf8
      | some s => .ok (s, cursor + len)

def decodeU8 : Except ProtocolError (UInt8 × Nat) :=
  match data[cursor]? with
  | none => .error .TooShort
  | some value => .ok (value, cursor + 1)

def decodeU32 : Except ProtocolError (UInt32 × Nat) :=
  if cursor + 4 > data.length then .error .TooShort
  else .ok (leWord32 (data.drop cursor), cursor + 4)

end

inductive InputEvent where
  | ButtonPress (name : String)
  | TextInput (text : String)
  | KeyPress (keyCode : UInt32) (modifiers : UInt8)
  | FocusChange (gained : Bool)
deriving DecidableEq

namespace InputEvent

def TYPE_BUTTON_PRESS : UInt8 := 0x10

def TYPE_TEXT_INPUT : UInt8 := 0x11

def TYPE_KEY_PRESS : UInt8 := 0x12

def TYPE_FOCUS_CHANGE : UInt8 := 0x13

def toEnvelope : InputEvent → Envelope
  | ButtonPress name => .new TYPE_BUTTON_PRESS (TYPE_BUTTON_PRESS :: encodeString name)
  | TextInput text => .new TYPE_TEXT_INPUT (TYPE_TEXT_INPUT :: encodeString text)
  | KeyPress keyCode modifiers =>
    .new TYPE_KEY_PRESS (TYPE_KEY_PRESS :: ((leBytes32 keyCode).toList ++ [modifiers]))
  | FocusChange gained => .new TYPE_FOCUS_CHANGE [TYPE_FOCUS_CHANGE, if gained then 1 else 0]

def toBytes (event : InputEvent) : List UInt8 := encodeEnvelope event.toEnvelope

def ofEnvelope (envelope : Envelope) : Except ProtocolError InputEvent :=
  let payload := envelope.payload
  match payload with
  | [] => .error .EmptyPayload
  | payloadTag :: _ =>
    if payloadTag ≠ envelope.typeTag then .error (.UnexpectedType envelope.typeTag payloadTag)
    else if envelope.typeTag = TYPE_BUTTON_PRESS then
      (decodeString payload 1).map fun (name, _) => ButtonPress name
    else if envelope.typeTag = TYPE_TEXT_INPUT then
      (decodeString payload 1).map fun (text, _) => TextInput text
    else if envelope.typeTag = TYPE_KEY_PRESS then
      match decodeU32 payload 1 with
      | .error e => .error e
      | .ok (keyCode, cursor) =>
        (decodeU8 payload cursor).map fun (modifiers, _) => KeyPress keyCode modifiers
    else if envelope.typeTag = TYPE_FOCUS_CHANGE then
      (decodeU8 payload 1).map fun (gained, _) => FocusChange (gained ≠ 0)
    else .error (.UnknownMessageType envelope.typeTag)

def fromBytes (data : List UInt8) : Except ProtocolError InputEvent :=
  match decodeEnvelope data with
  | .error e => .error e
  | .ok envelope => ofEnvelope envelope

-- The bytes of the text that an event carries.
def textLen : InputEvent → Nat
  | ButtonPress s | TextInput s => (utf8Bytes s).length
  | _ => 0

end InputEvent

lemma leWord16_length {bytes : List α} :
    (leWord16 (leBytes16 (UInt16.ofNat bytes.length) ++ rest)).toNat = bytes.length % 65536 := by
  rw [leWord16_leBytes16, UInt16.toNat_ofNat']

-- What is read back of a payload: as much as the length says that was written.
lemma decodeEnvelope_encodeEnvelope :
    decodeEnvelope (encodeEnvelope (.new tag payload) ++ rest) =
      .ok (.new tag (payload.take (payload.length % 65536))) := by
  have hl : (leWord16 [(UInt16.ofNat payload.length).toUInt8,
      (UInt16.ofNat payload.length >>> 8).toUInt8]).toNat = payload.length % 65536 :=
    leWord16_length
  have he : payload.length % 65536 ≤ payload.length := Nat.mod_le _ _
  simp only [encodeEnvelope, leBytes16, Envelope.new, cons_append, nil_append, decodeEnvelope, hl,
    ne_eq, not_true_eq_false, ite_false]
  rw [if_neg (by rw [length_append]; omega), take_append_of_le_length he]

lemma length_encodeString : (encodeString s).length = (utf8Bytes s).length + 2 := by
  simp [encodeString, leBytes16]

lemma decodeString_encodeString (hs : (utf8Bytes s).length < 65536) :
    decodeString (tag :: encodeString s) 1 = .ok (s, (utf8Bytes s).length + 3) := by
  have hl : (leWord16 ((tag :: encodeString s).drop 1)).toNat = (utf8Bytes s).length := by
    show (leWord16 (encodeString s)).toNat = _
    rw [encodeString, leWord16_length, Nat.mod_eq_of_lt hs]
  have ht : (tag :: encodeString s).drop (1 + 2) = utf8Bytes s := rfl
  simp only [decodeString, length_cons, length_encodeString, hl, ht, take_length,
    fromUtf8_utf8Bytes]
  rw [if_neg (by omega), if_neg (by omega)]
  congr 2
  omega

-- A text that is read lies in the bytes it is read from, behind its length.
lemma length_of_decodeString (h : decodeString data cursor = .ok (s, stop)) :
    cursor + 2 + (utf8Bytes s).length ≤ data.length := by
  rw [decodeString] at h
  split at h
  · cases h
  · dsimp only at h
    split at h
    · cases h
    · rename_i hf
      split at h
      · cases h
      · rename_i he
        cases h
        have hb := congrArg length (utf8Bytes_of_fromUtf8 he)
        rw [length_take] at hb
        omega

namespace InputEvent

lemma fromBytes_toBytes_eq {event : InputEvent} :
    fromBytes (event.toBytes ++ rest) =
      ofEnvelope (.new event.toEnvelope.typeTag
        (event.toEnvelope.payload.take (event.toEnvelope.payload.length % 65536))) := by
  cases event <;> simp only [fromBytes, toBytes, toEnvelope, decodeEnvelope_encodeEnvelope] <;> rfl

lemma decodeString_payload :
    (∃ next, decodeString ((tag :: encodeString s).take ((tag :: encodeString s).length % 65536)) 1 =
      .ok (s, next)) ↔ (utf8Bytes s).length ≤ 65532 := by
  have hl : (tag :: encodeString s).length = (utf8Bytes s).length + 3 := by
    rw [length_cons, length_encodeString]
  constructor
  · rintro ⟨next, h⟩
    have hf := length_of_decodeString h
    rw [length_take, hl] at hf
    omega
  · intro h
    rw [hl, Nat.mod_eq_of_lt (by omega), ← hl, take_length]
    exact ⟨_, decodeString_encodeString (by omega)⟩

-- The two events with a text are read alike.
lemma ofEnvelope_text {event : String → InputEvent}
    (hr : ∀ rest, ofEnvelope (.new tag (tag :: rest)) =
      (decodeString (tag :: rest) 1).map fun (s, _) => event s)
    (hi : ∀ s t, event s = event t → s = t) :
    ofEnvelope (.new tag ((tag :: encodeString s).take ((tag :: encodeString s).length % 65536))) =
      .ok (event s) ↔ (utf8Bytes s).length ≤ 65532 := by
  rw [← decodeString_payload]
  cases (tag :: encodeString s).length % 65536 with
  | zero =>
    constructor
    · intro h
      cases h
    · rintro ⟨_, h⟩
      cases h
  | succ n =>
    rw [take_succ_cons, hr]
    cases decodeString (tag :: (encodeString s).take n) 1 with
    | error => simp [Except.map]
    | ok read =>
      obtain ⟨t, next⟩ := read
      simp only [Except.map, Except.ok.injEq, Prod.mk.injEq, exists_and_left, exists_eq', and_true]
      exact ⟨hi t s, fun h => by rw [h]⟩

theorem fromBytes_toBytes_iff (event : InputEvent) (rest : List UInt8) :
    fromBytes (event.toBytes ++ rest) = .ok event ↔ event.textLen ≤ 65532 := by
  rw [fromBytes_toBytes_eq]
  cases event with
  | ButtonPress name => exact ofEnvelope_text (fun _ => rfl) (fun _ _ => ButtonPress.inj)
  | TextInput text => exact ofEnvelope_text (fun _ => rfl) (fun _ _ => TextInput.inj)
  | KeyPress keyCode modifiers =>
    refine iff_of_true ?_ (Nat.zero_le _)
    show Except.ok (KeyPress (leWord32 ((leBytes32 keyCode).toList ++ [modifiers])) modifiers) = _
    rw [leWord32_leBytes32]
  | FocusChange gained => cases gained <;> decide +kernel

lemma length_utf8Bytes_replicate : (utf8Bytes (String.ofList (replicate n 'a'))).length = n := by
  induction n with
  | zero => rfl
  | succ n ih =>
    have ho : (String.singleton 'a').toByteArray.size = 1 := rfl
    rw [utf8Bytes, Array.length_toList, ← ByteArray.size] at ih ⊢
    rw [replicate_succ, String.ofList_cons, String.toByteArray_append, ByteArray.size_append, ih,
      ho, Nat.add_comm]

-- With 65533 bytes of text the payload has 2 ^ 16 bytes, and its length is written as zero.
lemma fromBytes_of_length_eq (h : (utf8Bytes text).length = 65533) :
    fromBytes (toBytes (TextInput text)) = .error .EmptyPayload := by
  have hl : (toEnvelope (TextInput text)).payload.length % 65536 = 0 := by
    show (TYPE_TEXT_INPUT :: encodeString text).length % 65536 = 0
    rw [length_cons, length_encodeString, h]
  rw [← append_nil (toBytes _), fromBytes_toBytes_eq, hl]
  rfl

theorem fromBytes_longText :
    ∃ text, (utf8Bytes text).length = 65533 ∧
      fromBytes (toBytes (TextInput text)) = .error .EmptyPayload :=
  ⟨_, length_utf8Bytes_replicate, fromBytes_of_length_eq length_utf8Bytes_replicate⟩

end InputEvent

end ZeroOS
