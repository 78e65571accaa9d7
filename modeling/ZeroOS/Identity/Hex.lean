import ZeroOS.Lib.Text

/-!
Key material as hexadecimal text.
-/

namespace ZeroOS.Identity.Hex

open Text

-- `trim_start_matches` for `0x` or `0X`, as often as it stands there.
def trimStartMatches (x : Char) : List Char → List Char
  | '0' :: c :: rest => if c = x then trimStartMatches x rest else '0' :: c :: rest
  | text => text

def stripped (text : List Char) : List Char := trimStartMatches 'X' (trimStartMatches 'x' text)

def parseByte (h l : Char) : Except String UInt8 :=
  match parseUnsigned 16 256 [h, l] with
  | none => .error "invalid digit found in string"
  | some value => .ok (UInt8.ofNat value)

def pairs : List Char → Except String (List UInt8)
  | h :: l :: rest => (parseByte h l).bind fun byte => (pairs rest).map (byte :: ·)
  | _ => .ok []

-- `bytes_hex` and `option_bytes_hex`.
def visitBytes (text : List Char) : Except String (List UInt8) := pairs (stripped text)

def arrayPairs : Nat → List Char → Except String (List UInt8)
  | 0, _ => .ok []
  | n + 1, h :: l :: rest => (parseByte h l).bind fun byte => (arrayPairs n rest).map (byte :: ·)
  | _ + 1, _ => .error "unexpected end"

def byteLength (text : List Char) : Nat := (text.map Char.utf8Size).sum

-- `array_hex_12` and `array_hex_16`.
def visitArray (n : Nat) (text : List Char) : Except String (List UInt8) :=
  if byteLength (stripped text) ≠ 2 * n then
    .error s!"expected {2 * n} hex chars for {n} bytes, got {byteLength (stripped text)}"
  else arrayPairs n (stripped text)

def Denotes : List Char → List UInt8 → Prop
  | [], [] => True
  | h :: l :: digits, byte :: bytes => digitValue 16 h = some (byte.toNat / 16) ∧
      digitValue 16 l = some (byte.toNat % 16) ∧ Denotes digits bytes
  | _, _ => False

-- Digits that denote the bytes, after at most one mark. The mark is written `0x`; the
-- source takes `0X` off as well, and one `0X` counts as the one mark here.
def Exact (text : List Char) (bytes : List UInt8) : Prop :=
  ∃ digits, (text = digits ∨ text = '0' :: 'x' :: digits ∨ text = '0' :: 'X' :: digits) ∧
    Denotes digits bytes

-- No second mark, no digit left over, no sign.
structure Plain (text : List Char) : Prop where
  once : text.length ≤ (stripped text).length + 2
  even : (stripped text).length % 2 = 0
  unsigned : '+' ∉ stripped text

lemma digitValue_lt (hd : digitValue 16 c = some value) : value < 16 :=
  of_decide_eq_true (Option.filter_eq_some_iff.mp hd).2

lemma parseByte_iff (hp : h ≠ '+') : parseByte h l = .ok byte ↔
    digitValue 16 h = some (byte.toNat / 16) ∧ digitValue 16 l = some (byte.toNat % 16) := by
  have hu : parseUnsigned 16 256 [h, l] = (digitsValue 16 [h, l]).filter (· < 256) := by
    simp only [parseUnsigned]
    split
    · next hd => exact absurd (List.cons.inj hd).1 hp
    · exact if_neg (List.cons_ne_nil h [l])
  have hb := byte.toNat_lt
  rw [parseByte, hu]
  cases hh : digitValue 16 h with
  | none => simp [digitsValue, hh]
  | some high =>
    cases hl : digitValue 16 l with
    | none => simp [digitsValue, hh, hl]
    | some low =>
      have hi := digitValue_lt hh
      have ho := digitValue_lt hl
      have hv : (digitsValue 16 [h, l]).filter (· < 256) = some (high * 16 + low) := by
        simp [digitsValue, hh, hl, Option.filter]
        omega
      rw [hv]
      simp only [Except.ok.injEq, Option.some.injEq, ← UInt8.toNat_inj, UInt8.toNat_ofNat']
      omega

lemma ne_plus (hd : digitValue 16 c = some value) : c ≠ '+' := by
  rintro rfl
  have hn : digitValue 16 '+' = none := by decide
  cases hn.symm.trans hd

lemma collected_iff {first : Except String UInt8} {others : Except String (List UInt8)} :
    (first.bind fun byte => others.map (byte :: ·)) = .ok bytes ↔
      ∃ byte rest, bytes = byte :: rest ∧ first = .ok byte ∧ others = .ok rest := by
  cases first <;> cases others <;> simp [Except.bind, Except.map, eq_comm]

lemma denotes_iff : Denotes digits bytes ↔
    pairs digits = .ok bytes ∧ digits.length % 2 = 0 ∧ '+' ∉ digits := by
  induction digits using pairs.induct generalizing bytes with
  | case1 h l digits ih =>
    have hl : (h :: l :: digits).length % 2 = digits.length % 2 := by
      rw [List.length_cons, List.length_cons]
      omega
    rw [hl, pairs, collected_iff, List.mem_cons, List.mem_cons, not_or, not_or]
    cases bytes with
    | nil => exact iff_of_false id fun hd => by obtain ⟨⟨_, _, he, -⟩, -⟩ := hd; cases he
    | cons byte bytes =>
      rw [Denotes, ih]
      constructor
      · rintro ⟨hh, hv, hr, he, hn⟩
        have hb := (parseByte_iff (ne_plus hh)).mpr ⟨hh, hv⟩
        exact ⟨⟨byte, bytes, rfl, hb, hr⟩, he, (ne_plus hh).symm, (ne_plus hv).symm, hn⟩
      · rintro ⟨⟨_, _, he, hb, hr⟩, hl, hp, -, hn⟩
        cases he
        obtain ⟨hh, hv⟩ := (parseByte_iff (Ne.symm hp)).mp hb
        exact ⟨hh, hv, hr, hl, hn⟩
  | case2 digits hn =>
    match digits with
    | [] => cases bytes <;> simp [Denotes, pairs]
    | [_] => simp [Denotes]
    | h :: l :: rest => exact absurd rfl (hn h l rest)

lemma trimStartMatches_cases (x : Char) (text : List Char) : trimStartMatches x text = text ∨
    ∃ rest, text = '0' :: x :: rest ∧ trimStartMatches x text = trimStartMatches x rest := by
  fun_cases trimStartMatches x text with
  | case1 rest => exact .inr ⟨rest, rfl, rfl⟩
  | case2 => exact .inl rfl
  | case3 => exact .inl rfl

lemma length_trimStartMatches_le (x : Char) (text : List Char) :
    (trimStartMatches x text).length ≤ text.length := by
  fun_induction trimStartMatches x text with
  | case1 rest ih => exact Nat.le_add_right_of_le (Nat.le_add_right_of_le ih)
  | case2 => exact Nat.le_refl _
  | case3 => exact Nat.le_refl _

-- One mark at most is taken off.
lemma trimStartMatches_of_length (hl : text.length ≤ (trimStartMatches x text).length + 2) :
    text = trimStartMatches x text ∨ text = '0' :: x :: trimStartMatches x text := by
  rcases trimStartMatches_cases x text with he | ⟨rest, rfl, he⟩
  · exact .inl he.symm
  · rw [he] at hl ⊢
    rcases trimStartMatches_cases x rest with hr | ⟨other, rfl, hr⟩
    · exact .inr (by rw [hr])
    · have ho := length_trimStartMatches_le x other
      rw [hr] at hl
      simp only [List.length_cons] at hl
      omega

lemma stripped_of_plain (hp : Plain text) : text = stripped text ∨
    text = '0' :: 'x' :: stripped text ∨ text = '0' :: 'X' :: stripped text := by
  have ho := hp.once
  have hX : _ ≤ (trimStartMatches 'x' text).length := length_trimStartMatches_le 'X' _
  unfold stripped at ho ⊢
  rcases trimStartMatches_of_length (x := 'x') (Nat.le_trans ho (Nat.add_le_add_right hX 2))
    with he | he
  · rw [← he] at ho ⊢
    exact (trimStartMatches_of_length (x := 'X') ho).imp_right .inr
  · have hl := congrArg List.length he
    simp only [List.length_cons] at hl
    have hu : (trimStartMatches 'x' text).length ≤
        (trimStartMatches 'X' (trimStartMatches 'x' text)).length + 2 := by omega
    rcases trimStartMatches_of_length hu with ht | ht
    · exact .inr (.inl (by rw [← ht, ← he]))
    · have hm := congrArg List.length ht
      simp only [List.length_cons] at hm
      omega

-- No mark is a pair of digits.
lemma Denotes.trimStartMatches (hd : Denotes digits bytes) (hx : digitValue 16 x = none) :
    Hex.trimStartMatches x digits = digits := by
  rcases trimStartMatches_cases x digits with he | ⟨rest, rfl, -⟩
  · exact he
  · cases bytes with
    | nil => exact hd.elim
    | cons byte bytes =>
      rw [Denotes, hx] at hd
      cases hd.2.1

lemma Denotes.stripped (hd : Denotes digits bytes)
    (ht : text = digits ∨ text = '0' :: 'x' :: digits ∨ text = '0' :: 'X' :: digits) :
    Hex.stripped text = digits ∧ text.length ≤ digits.length + 2 := by
  have hx := hd.trimStartMatches (x := 'x') (by decide)
  have hX := hd.trimStartMatches (x := 'X') (by decide)
  rcases ht with rfl | rfl | rfl
  · simp [Hex.stripped, hx, hX]
  · simp [Hex.stripped, Hex.trimStartMatches, hx, hX]
  · simp [Hex.stripped, Hex.trimStartMatches, hX]

lemma exact_iff (hv : visitBytes text = .ok bytes) : Exact text bytes ↔ Plain text := by
  constructor
  · rintro ⟨digits, ht, hd⟩
    obtain ⟨hs, hl⟩ := hd.stripped ht
    obtain ⟨-, he, hn⟩ := denotes_iff.mp hd
    exact ⟨hs ▸ hl, hs ▸ he, hs ▸ hn⟩
  · intro hp
    exact ⟨stripped text, stripped_of_plain hp, denotes_iff.mpr ⟨hv, hp.even, hp.unsigned⟩⟩

lemma digitValue_hexDigit : ∀ n < 16, digitValue 16 (hexDigit n) = some n := by decide

lemma denotes_hex (bytes : List UInt8) : Denotes (hex bytes) bytes := by
  induction bytes with
  | nil => trivial
  | cons byte bytes ih =>
    have hb := byte.toNat_lt
    exact ⟨digitValue_hexDigit _ (by omega), digitValue_hexDigit _ (by omega), ih⟩

lemma visitBytes_hex (bytes : List UInt8) : visitBytes (hex bytes) = .ok bytes := by
  have hd := denotes_hex bytes
  rw [visitBytes, (hd.stripped (.inl rfl)).1]
  exact (denotes_iff.mp hd).1

lemma arrayPairs_iff :
    arrayPairs n text = .ok bytes ↔ pairs (text.take (2 * n)) = .ok bytes ∧ bytes.length = n := by
  fun_induction arrayPairs n text generalizing bytes with
  | case1 text => cases bytes <;> simp [pairs]
  | case2 n h l rest ih =>
    rw [Nat.mul_succ, List.take_succ_cons, List.take_succ_cons, pairs, collected_iff, collected_iff]
    simp only [ih]
    constructor
    · rintro ⟨byte, bytes, rfl, hb, hp, rfl⟩
      exact ⟨⟨byte, bytes, rfl, hb, hp⟩, rfl⟩
    · rintro ⟨⟨byte, bytes, rfl, hb, hp⟩, he⟩
      exact ⟨byte, bytes, rfl, hb, hp, Nat.succ.inj he⟩
  | case3 n text hn =>
    match text with
    | [] | [_] => cases bytes <;> simp [pairs, Nat.mul_succ]
    | h :: l :: rest => exact absurd rfl (hn h l rest)

lemma length_le_byteLength (text : List Char) : text.length ≤ byteLength text := by
  induction text with
  | nil => exact Nat.le_refl 0
  | cons c text ih =>
    simp only [byteLength, List.map_cons, List.sum_cons, List.length_cons] at ih ⊢
    have hc := c.utf8Size_pos
    omega

-- The length in bytes leaves no character behind the pairs.
lemma visitBytes_of_visitArray (hv : visitArray n text = .ok bytes) :
    visitBytes text = .ok bytes ∧ bytes.length = n := by
  unfold visitArray at hv
  split at hv
  · cases hv
  · next hb =>
    rw [arrayPairs_iff, List.take_of_length_le] at hv
    · exact hv
    · have hl := length_le_byteLength (stripped text)
      omega

lemma utf8Size_hexDigit : ∀ n < 16, (hexDigit n).utf8Size = 1 := by decide

lemma byteLength_hex (bytes : List UInt8) : byteLength (hex bytes) = 2 * bytes.length := by
  induction bytes with
  | nil => rfl
  | cons byte bytes ih =>
    have hb := byte.toNat_lt
    have hs : byteLength (hex (byte :: bytes)) = _ + (_ + byteLength (hex bytes)) := rfl
    rw [hs, utf8Size_hexDigit _ (by omega), utf8Size_hexDigit _ (by omega), ih, List.length_cons]
    omega

lemma visitArray_hex (bytes : List UInt8) : visitArray bytes.length (hex bytes) = .ok bytes := by
  have hd := denotes_hex bytes
  rw [visitArray, (hd.stripped (.inl rfl)).1, byteLength_hex, if_neg (not_not_intro rfl),
    arrayPairs_iff, List.take_of_length_le (byteLength_hex bytes ▸ length_le_byteLength _)]
  exact ⟨(denotes_iff.mp hd).1, rfl⟩

theorem hex_exact_iff (text : List Char) (bytes : List UInt8) :
    visitBytes (hex bytes) = .ok bytes ∧ visitArray bytes.length (hex bytes) = .ok bytes ∧
      (visitBytes text = .ok bytes → (Exact text bytes ↔ Plain text)) ∧
      ∀ n, visitArray n text = .ok bytes → bytes.length = n ∧ (Exact text bytes ↔ Plain text) := by
  refine ⟨visitBytes_hex bytes, visitArray_hex bytes, exact_iff, fun n hv => ?_⟩
  obtain ⟨hb, hl⟩ := visitBytes_of_visitArray hv
  exact ⟨hl, exact_iff hb⟩

-- The last digit is dropped.
theorem odd_digit_dropped : visitBytes "abc".toList = .ok [0xab] ∧ ¬Exact "abc".toList [0xab] := by
  have hv : visitBytes "abc".toList = .ok [0xab] := by decide +kernel
  refine ⟨hv, fun he => ?_⟩
  have ⟨_, hn, _⟩ := (exact_iff hv).mp he
  revert hn
  decide +kernel

end ZeroOS.Identity.Hex
