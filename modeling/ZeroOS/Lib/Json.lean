import Mathlib.Tactic.Common
import ZeroOS.Lib.Text

/-!
JSON texts: writers, with readers that read back what was written. A text is its bytes: 34 is a
quote, 92 a backslash, 44 a comma, 58 a colon, 91 and 93 are brackets, 123 and 125 braces.
-/

namespace Json

open List
open ZeroOS (utf8Bytes fromUtf8 fromUtf8_utf8Bytes)

def isDigit (byte : UInt8) : Bool := 48 ≤ byte ∧ byte ≤ 57

-- The digits of a number end where something else follows.
def Ends (rest : List UInt8) : Prop := rest.head?.all (!isDigit ·) = true

structure Codec (α : Type) where
  encode : α → List UInt8
  decode : List UInt8 → Option (α × List UInt8)
  decode_encode : ∀ value rest, Ends rest → decode (encode value ++ rest) = some (value, rest)

def skip (text bytes : List UInt8) : Option (List UInt8) := text.isPrefixOf? bytes

lemma skip_append (text rest : List UInt8) : skip text (text ++ rest) = some rest := by
  induction text with
  | nil => rfl
  | cons c text ih =>
    show (if c == c then skip text (text ++ rest) else none) = some rest
    rw [if_pos (beq_self_eq_true c)]
    exact ih

def literal (text : List UInt8) : Codec Unit where
  encode _ := text
  decode bytes := (skip text bytes).map ((), ·)
  decode_encode _ _ _ := by
    rw [skip_append]
    rfl

def null : Codec Unit := literal [110, 117, 108, 108]

def key (name : String) : List UInt8 := 34 :: (utf8Bytes name ++ [34, 58])

namespace Codec

variable {α β : Type}

-- A codec for the images of values serves for the values.
def via (codec : Codec β) (image : α → β) (back : β → α)
    (hback : ∀ value, back (image value) = value) : Codec α where
  encode value := codec.encode (image value)
  decode bytes := (codec.decode bytes).map fun read => (back read.1, read.2)
  decode_encode _ _ hr := by rw [codec.decode_encode _ _ hr, Option.map_some, hback]

-- Another member behind those of `first`.
def field (first : Codec α) (name : String) (second : Codec β) : Codec (α × β) where
  encode value := first.encode value.1 ++ (44 :: key name ++ second.encode value.2)
  decode bytes := do
    let (left, bytes) ← first.decode bytes
    let (right, bytes) ← second.decode (← skip (44 :: key name) bytes)
    some ((left, right), bytes)
  decode_encode value rest hr := by
    have hs : Ends (44 :: key name ++ (second.encode value.2 ++ rest)) := rfl
    rw [append_assoc, append_assoc, first.decode_encode _ _ hs, Option.bind_eq_bind,
      Option.bind_some]
    dsimp only
    rw [skip_append]
    simp only [Option.bind_eq_bind, Option.bind_some, second.decode_encode _ _ hr]

-- An object whose first member has this name.
def object (name : String) (members : Codec α) : Codec α where
  encode value := 123 :: key name ++ (members.encode value ++ [125])
  decode bytes := do
    let (value, bytes) ← members.decode (← skip (123 :: key name) bytes)
    some (value, ← skip [125] bytes)
  decode_encode value rest _ := by
    have hs : Ends ([125] ++ rest) := rfl
    rw [append_assoc, append_assoc, skip_append]
    simp only [Option.bind_eq_bind, Option.bind_some, members.decode_encode _ _ hs, skip_append]

-- A value or `null`.
def option (codec : Codec α) (hnull : ∀ rest, codec.decode (110 :: rest) = none) :
    Codec (Option α) where
  encode
    | none => null.encode ()
    | some value => codec.encode value
  decode bytes :=
    match codec.decode bytes with
    | some (value, bytes) => some (some value, bytes)
    | none => (null.decode bytes).map fun read => (none, read.2)
  decode_encode value rest hr := by
    cases value with
    | none =>
      have hn : codec.decode (null.encode () ++ rest) = none := hnull ..
      rw [hn]
      exact congrArg (Option.map _) (null.decode_encode () rest hr)
    | some => simp only [codec.decode_encode _ _ hr]

section Arrays

variable (codec : Codec α)

def encodeTail : List α → List UInt8
  | [] => [93]
  | value :: values => 44 :: (codec.encode value ++ encodeTail values)

def decodeTail : Nat → List UInt8 → Option (List α × List UInt8)
  | 0, _ => none
  | fuel + 1, bytes =>
    match skip [44] bytes with
    | none => (skip [93] bytes).map ([], ·)
    | some bytes => do
      let (value, bytes) ← codec.decode bytes
      let (values, bytes) ← decodeTail fuel bytes
      some (value :: values, bytes)

lemma ends_encodeTail (values : List α) (rest : List UInt8) :
    Ends (codec.encodeTail values ++ rest) := by
  cases values <;> rfl

lemma decodeTail_encodeTail (hf : values.length < fuel) :
    codec.decodeTail fuel (codec.encodeTail values ++ rest) = some (values, rest) := by
  induction fuel generalizing values with
  | zero => exact absurd hf (Nat.not_lt_zero _)
  | succ fuel ih =>
    cases values with
    | nil => rfl
    | cons value values =>
      have hs : skip [44] (44 :: (codec.encode value ++ codec.encodeTail values) ++ rest) =
        some (codec.encode value ++ codec.encodeTail values ++ rest) := rfl
      rw [encodeTail, decodeTail, hs, append_assoc]
      simp only [codec.decode_encode _ _ (codec.ends_encodeTail values rest),
        ih (Nat.lt_of_succ_lt_succ hf), Option.bind_eq_bind, Option.bind_some]

lemma length_lt_encodeTail : values.length < (codec.encodeTail values).length := by
  induction values with
  | nil => exact Nat.zero_lt_one
  | cons =>
    simp only [encodeTail, length_cons, length_append]
    omega

def list (hempty : ∀ rest, codec.decode (93 :: rest) = none) : Codec (List α) where
  encode
    | [] => [91, 93]
    | value :: values => 91 :: (codec.encode value ++ codec.encodeTail values)
  decode bytes := do
    let bytes ← skip [91] bytes
    match codec.decode bytes with
    | none => (skip [93] bytes).map ([], ·)
    | some (value, bytes) =>
      let (values, bytes) ← codec.decodeTail bytes.length bytes
      some (value :: values, bytes)
  decode_encode values rest _ := by
    cases values with
    | nil =>
      have hs : skip [91] ([91, 93] ++ rest) = some (93 :: rest) := rfl
      rw [hs]
      simp only [Option.bind_eq_bind, Option.bind_some, hempty]
      rfl
    | cons value values =>
      have hs : skip [91] (91 :: (codec.encode value ++ codec.encodeTail values) ++ rest) =
        some (codec.encode value ++ codec.encodeTail values ++ rest) := rfl
      have hl : values.length < (codec.encodeTail values ++ rest).length := by
        rw [length_append]
        exact Nat.lt_add_right _ codec.length_lt_encodeTail
      rw [hs, append_assoc]
      simp only [Option.bind_eq_bind, Option.bind_some,
        codec.decode_encode _ _ (codec.ends_encodeTail values rest),
        codec.decodeTail_encodeTail hl]

end Arrays

end Codec

def bool : Codec Bool where
  encode
    | true => [116, 114, 117, 101]
    | false => [102, 97, 108, 115, 101]
  decode bytes :=
    match skip [116, 114, 117, 101] bytes with
    | some bytes => some (true, bytes)
    | none => (skip [102, 97, 108, 115, 101] bytes).map (false, ·)
  decode_encode value _ _ := by cases value <;> rfl

-- Texts. Quotes and backslashes are escaped; other characters stand for themselves.

def escape (bytes : List UInt8) : List UInt8 :=
  bytes.flatMap fun c => if c = 34 ∨ c = 92 then [92, c] else [c]

-- `escaped` says whether a backslash stands in front.
def readText (escaped : Bool) : List UInt8 → Option (List UInt8 × List UInt8)
  | [] => none
  | c :: rest =>
    if escaped = false ∧ c = 34 then some ([], rest)
    else if escaped = false ∧ c = 92 then readText true rest
    else (readText false rest).map fun read => (c :: read.1, read.2)

lemma readText_escape : readText false (escape bytes ++ 34 :: rest) = some (bytes, rest) := by
  induction bytes with
  | nil => rfl
  | cons c bytes ih =>
    rw [escape, flatMap_cons, append_assoc, ← escape]
    by_cases hq : c = 34 ∨ c = 92
    · rw [if_pos hq]
      show (readText false (escape bytes ++ 34 :: rest)).map _ = _
      rw [ih]
      rfl
    · obtain ⟨hn, hb⟩ := not_or.mp hq
      rw [if_neg hq, singleton_append, readText, if_neg fun h => hn h.2, if_neg fun h => hb h.2, ih]
      rfl

def text : Codec (List UInt8) where
  encode bytes := 34 :: (escape bytes ++ [34])
  decode bytes := (skip [34] bytes).bind (readText false)
  decode_encode bytes rest _ := by
    have hs : skip [34] (34 :: (escape bytes ++ [34]) ++ rest) =
      some (escape bytes ++ [34] ++ rest) := rfl
    rw [hs, Option.bind_some, append_assoc]
    exact readText_escape

def string : Codec String :=
  text.via utf8Bytes (fun bytes => (fromUtf8 bytes).getD "") fun value => by
    rw [fromUtf8_utf8Bytes]
    rfl

def strings : Codec (List String) := string.list fun _ => rfl

-- Digits as bytes.

def ofChars (chars : List Char) : List UInt8 := chars.map Char.toUInt8

def toChars (bytes : List UInt8) : List Char := bytes.map fun byte => Char.ofNat byte.toNat

lemma toNat_toUInt8 {c : Char} (hc : c.toNat < 256) : c.toUInt8.toNat = c.toNat :=
  (UInt32.toNat_toUInt8 c.val).trans (Nat.mod_eq_of_lt hc)

lemma toChars_ofChars (hc : ∀ c ∈ chars, c.toNat < 256) : toChars (ofChars chars) = chars := by
  rw [toChars, ofChars, map_map]
  refine (map_congr_left fun c hm => ?_).trans (map_id _)
  rw [Function.comp_apply, toNat_toUInt8 (hc c hm), Char.ofNat_toNat, id]

lemma isDigit_toUInt8 {c : Char} (hc : c.isDigit = true) :
    c.toNat < 256 ∧ isDigit c.toUInt8 = true := by
  have hd : 48 ≤ c.toNat ∧ c.toNat ≤ 57 := by
    simpa [Char.isDigit, UInt32.le_iff_toNat_le] using hc
  have hl : c.toNat < 256 := by omega
  refine ⟨hl, ?_⟩
  simpa [isDigit, UInt8.le_iff_toNat_le, toNat_toUInt8 hl] using hd

def number : Codec Nat where
  encode value := ofChars (Nat.toDigits 10 value)
  decode bytes :=
    let digits := bytes.takeWhile isDigit
    if digits = [] then none
    else some (Nat.ofDigitChars 10 (toChars digits) 0, bytes.dropWhile isDigit)
  decode_encode value rest hr := by
    have hd (c : Char) (hm : c ∈ Nat.toDigits 10 value) :=
      isDigit_toUInt8 (Nat.isDigit_of_mem_toDigits (Nat.zero_lt_succ 9) (Nat.le_refl 10) hm)
    have hb : ∀ byte ∈ ofChars (Nat.toDigits 10 value), isDigit byte = true := by
      simpa [ofChars] using fun c hm => (hd c hm).2
    have he : rest.takeWhile isDigit = [] ∧ rest.dropWhile isDigit = rest := by
      cases rest with
      | nil => exact ⟨rfl, rfl⟩
      | cons byte =>
        have hn : isDigit byte = false := by simpa [Ends] using hr
        simp [hn]
    have hn : ofChars (Nat.toDigits 10 value) ≠ [] := by simp [ofChars, Nat.toDigits_ne_nil]
    dsimp only
    rw [takeWhile_append_of_pos hb, dropWhile_append_of_pos hb, he.1, he.2, append_nil,
      if_neg hn, toChars_ofChars fun c hm => (hd c hm).1, Nat.ofDigitChars_ten_toDigits]

def word : Codec UInt64 := number.via UInt64.toNat UInt64.ofNat fun _ => UInt64.ofNat_toNat

def bytes : Codec (List UInt8) :=
  (number.via UInt8.toNat UInt8.ofNat fun _ => UInt8.ofNat_toNat).list fun _ => rfl

-- Hexadecimal digits in quotes.

def hexDigits : Nat → Nat → List Char
  | 0, _ => []
  | width + 1, value => hexDigits width (value / 16) ++ [Text.hexDigit (value % 16)]

lemma hexDigits_lt (hm : c ∈ hexDigits width value) : c.toNat < 256 := by
  induction width generalizing value with
  | zero => exact absurd hm not_mem_nil
  | succ width ih =>
    rcases mem_append.mp hm with hm | hm
    · exact ih hm
    · have hd : ∀ d < 16, (Text.hexDigit d).toNat < 256 := by decide
      rw [mem_singleton.mp hm]
      exact hd _ (Nat.mod_lt value (by decide))

lemma digitsValue_hexDigits (hv : value < 16 ^ width) :
    Text.digitsValue 16 (hexDigits width value) = some value := by
  induction width generalizing value with
  | zero =>
    rw [Nat.lt_one_iff.mp hv]
    rfl
  | succ width ih =>
    have hd : ∀ d < 16, Text.digitValue 16 (Text.hexDigit d) = some d := by decide
    have hi := ih (Nat.div_lt_of_lt_mul (Nat.lt_of_lt_of_eq hv (Nat.pow_succ' ..)))
    unfold Text.digitsValue at hi
    rw [hexDigits, Text.digitsValue, foldlM_append, hi]
    simp [hd _ (Nat.mod_lt value (by decide)), Nat.div_add_mod']

def hex128 : Codec (BitVec 128) :=
  text.via (fun value => ofChars (hexDigits 32 value.toNat))
    (fun bytes => BitVec.ofNat 128 ((Text.digitsValue 16 (toChars bytes)).getD 0)) fun value => by
      rw [toChars_ofChars fun _ => hexDigits_lt, digitsValue_hexDigits value.isLt]
      simp

-- Values that stand alone.

def fromSlice {α : Type} (codec : Codec α) (bytes : List UInt8) : Except String α :=
  match codec.decode bytes with
  | some (value, []) => .ok value
  | some _ => .error "trailing characters"
  | none => .error "expected value"

lemma fromSlice_encode (codec : Codec α) (value : α) :
    fromSlice codec (codec.encode value) = .ok value := by
  have hd := codec.decode_encode value [] rfl
  rw [append_nil] at hd
  simp only [fromSlice, hd]

-- A result in the form that `serde` gives it.
def result {ε α : Type} (codec : Codec α) (error : ε → List UInt8) : Except ε α → List UInt8
  | .ok value => ((codec.object "Ok").object "result").encode value
  | .error e => (((literal (error e)).object "Err").object "result").encode ()

-- Texts are read where a proof computes, and never to compare two terms.
attribute [irreducible] fromSlice

end Json
