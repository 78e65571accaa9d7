import Mathlib.Data.List.DropRight
import Mathlib.Data.List.GetD
import Mathlib.Algebra.Ring.Nat

/-!
Base64 as the identity service decodes it.
-/

namespace ZeroOS.Identity.Base64

open List

inductive Failure where
  | Invalid (message : String)
  | IndexOutOfBounds
deriving DecidableEq

def DECODE_TABLE : List Int :=
  replicate 43 (-1) ++ [62, -1, -1, -1, 63] ++ (range' 52 10).map Int.ofNat ++ replicate 7 (-1) ++
    (range' 0 26).map Int.ofNat ++ replicate 6 (-1) ++ (range' 26 26).map Int.ofNat ++
    replicate 5 (-1)

structure Decoder where
  output : List UInt8
  buffer : UInt32
  bitsCollected : Nat

namespace Decoder

def collect (decoder : Decoder) (value : Nat) : Decoder :=
  let buffer := (decoder.buffer <<< 6) ||| UInt32.ofNat value
  let bits := decoder.bitsCollected + 6
  if bits ≥ 8 then
    { output := decoder.output ++ [(buffer >>> UInt32.ofNat (bits - 8)).toUInt8]
      buffer := buffer &&& ((1 <<< UInt32.ofNat (bits - 8)) - 1)
      bitsCollected := bits - 8 }
  else { decoder with buffer, bitsCollected := bits }

def feed (decoder : Decoder) (c : Char) : Except Failure Decoder :=
  if c.toNat ≥ 128 then .error (.Invalid "Invalid base64 character")
  else
    match DECODE_TABLE[c.toNat]? with
    | none => .error .IndexOutOfBounds
    | some value =>
      if value < 0 then .error (.Invalid "Invalid base64 character")
      else .ok (decoder.collect value.toNat)

end Decoder

def base64Decode (input : List Char) : Except Failure (List UInt8) :=
  let input := input.rdropWhile (· = '=')
  if input = [] then .ok [] else (input.foldlM Decoder.feed ⟨[], 0, 0⟩).map (·.output)

-- The standard encoding.

def alphabet (value : Nat) : Char :=
  "ABCDEFGHIJKLMNOPQRSTUVWXYZabcdefghijklmnopqrstuvwxyz0123456789+/".toList.getD value 'A'

def sextets : List UInt8 → List Nat
  | [] => []
  | [a] => [a.toNat / 4, a.toNat % 4 * 16]
  | [a, b] => [a.toNat / 4, a.toNat % 4 * 16 + b.toNat / 16, b.toNat % 16 * 4]
  | a :: b :: c :: rest =>
    a.toNat / 4 :: (a.toNat % 4 * 16 + b.toNat / 16) :: (b.toNat % 16 * 4 + c.toNat / 64) ::
      c.toNat % 64 :: sextets rest

def encode (padded : Bool) (bytes : List UInt8) : List Char :=
  (sextets bytes).map alphabet ++
    if padded then replicate ((3 - bytes.length % 3) % 3) '=' else []

namespace Decoder

lemma table_alphabet : ∀ value : Fin 64, (alphabet value).toNat < 128 ∧ alphabet value ≠ '=' ∧
    DECODE_TABLE[(alphabet value).toNat]? = some (value : Int) := by
  decide +kernel

lemma alphabet_ne (value : Nat) : alphabet value ≠ '=' := by
  by_cases hv : value < 64
  · exact (table_alphabet ⟨value, hv⟩).2.1
  · have hd : alphabet value = 'A' := getD_eq_default _ _ (Nat.not_lt.mp hv)
    rw [hd]
    decide

lemma feed_alphabet (hv : value < 64) (rest : List Char) :
    (alphabet value :: rest).foldlM feed decoder = rest.foldlM feed (decoder.collect value) := by
  obtain ⟨hl, -, ht⟩ := table_alphabet ⟨value, hv⟩
  rw [foldlM_cons, feed, if_neg (Nat.not_le.mpr hl), ht]
  rfl

-- The bits left over from the sextets before are the high ones of the next byte.
lemma collect_bits (output : List UInt8) (hn : n < 64) (hv : value < 64)
    (hb : bits = 0 ∨ bits = 2 ∨ bits = 4) :
    collect ⟨output, UInt32.ofNat n, bits + 2⟩ value =
      ⟨output ++ [UInt8.ofNat ((n * 64 + value) / 2 ^ bits)],
        UInt32.ofNat ((n * 64 + value) % 2 ^ bits), bits⟩ := by
  have ho : (UInt32.ofNat n <<< 6) ||| UInt32.ofNat value = UInt32.ofNat (n * 64 + value) := by
    apply UInt32.toNat_inj.mp
    have hs : n <<< 6 ||| value = n <<< 6 + value := (Nat.shiftLeft_add_eq_or_of_lt hv n).symm
    rw [Nat.shiftLeft_eq] at hs
    simp only [UInt32.toNat_or, UInt32.toNat_shiftLeft, UInt32.toNat_ofNat', UInt32.reduceToNat,
      Nat.reduceMod, Nat.shiftLeft_eq]
    rw [Nat.mod_eq_of_lt (a := n) (by omega), Nat.mod_eq_of_lt (a := value) (by omega),
      Nat.mod_eq_of_lt (by omega), hs, Nat.mod_eq_of_lt (by omega)]
  have hl : n * 64 + value < UInt32.size := Nat.lt_trans (by omega : _ < 4096) (by decide)
  have ht := UInt32.toNat_ofNat_of_lt' hl
  have ha : ∀ shift < 32, (UInt32.ofNat (n * 64 + value) >>> UInt32.ofNat shift).toUInt8 =
      UInt8.ofNat ((n * 64 + value) / 2 ^ shift) := by
    intro shift hs
    apply UInt8.toNat_inj.mp
    rw [UInt32.toNat_toUInt8, UInt32.toNat_shiftRight, ht, Nat.shiftRight_eq_div_pow,
      UInt8.toNat_ofNat', UInt32.toNat_ofNat', Nat.mod_eq_of_lt (a := shift) (by omega),
      Nat.mod_eq_of_lt hs]
  have hm : ∀ (mask : UInt32) k, mask.toNat = 2 ^ k - 1 →
      UInt32.ofNat (n * 64 + value) &&& mask = UInt32.ofNat ((n * 64 + value) % 2 ^ k) := by
    intro mask k hk
    apply UInt32.toNat_inj.mp
    rw [UInt32.toNat_and, ht, hk, Nat.and_two_pow_sub_one_eq_mod,
      UInt32.toNat_ofNat_of_lt' (Nat.lt_of_le_of_lt (Nat.mod_le _ _) hl)]
  rcases hb with rfl | rfl | rfl <;> simp only [collect, ho]
  · rw [if_pos (by decide), ha _ (by decide), hm _ 0 rfl]
  · rw [if_pos (by decide), ha _ (by decide), hm _ 2 rfl]
  · rw [if_pos (by decide), ha _ (by decide), hm _ 4 rfl]

lemma collect_first (output : List UInt8) (byte : UInt8) (hr : rest < 16) :
    (collect ⟨output, 0, 0⟩ (byte.toNat / 4)).collect (byte.toNat % 4 * 16 + rest) =
      ⟨output ++ [byte], UInt32.ofNat rest, 4⟩ := by
  have hb := byte.toNat_lt
  have hc : collect ⟨output, 0, 0⟩ (byte.toNat / 4) =
      ⟨output, UInt32.ofNat (byte.toNat / 4), 4 + 2⟩ := by
    simp [collect]
  rw [hc, collect_bits output (by omega) (by omega) (.inr (.inr rfl)),
    show (byte.toNat / 4 * 64 + (byte.toNat % 4 * 16 + rest)) / 2 ^ 4 = byte.toNat by omega,
    show (byte.toNat / 4 * 64 + (byte.toNat % 4 * 16 + rest)) % 2 ^ 4 = rest by omega,
    UInt8.ofNat_toNat]

lemma collect_second (output : List UInt8) (byte : UInt8) (hr : rest < 4) :
    collect ⟨output, UInt32.ofNat (byte.toNat / 16), 4⟩ (byte.toNat % 16 * 4 + rest) =
      ⟨output ++ [byte], UInt32.ofNat rest, 2⟩ := by
  have hb := byte.toNat_lt
  rw [collect_bits output (by omega) (by omega) (.inr (.inl rfl)),
    show (byte.toNat / 16 * 64 + (byte.toNat % 16 * 4 + rest)) / 2 ^ 2 = byte.toNat by omega,
    show (byte.toNat / 16 * 64 + (byte.toNat % 16 * 4 + rest)) % 2 ^ 2 = rest by omega,
    UInt8.ofNat_toNat]

lemma collect_third (output : List UInt8) (byte : UInt8) :
    collect ⟨output, UInt32.ofNat (byte.toNat / 64), 2⟩ (byte.toNat % 64) =
      ⟨output ++ [byte], 0, 0⟩ := by
  have hb := byte.toNat_lt
  rw [collect_bits output (by omega) (by omega) (.inl rfl),
    show (byte.toNat / 64 * 64 + byte.toNat % 64) / 2 ^ 0 = byte.toNat by omega,
    show (byte.toNat / 64 * 64 + byte.toNat % 64) % 2 ^ 0 = 0 by omega, UInt8.ofNat_toNat]
  rfl

lemma feed_sextets (bytes output : List UInt8) :
    (((sextets bytes).map alphabet).foldlM feed ⟨output, 0, 0⟩).map (·.output) =
      .ok (output ++ bytes) := by
  induction bytes using sextets.induct generalizing output with
  | case1 => simp [sextets, Except.map, pure, Except.pure]
  | case2 a =>
    have ha := a.toNat_lt
    have hc := collect_first output a (show 0 < 16 by decide)
    rw [Nat.add_zero] at hc
    rw [sextets, map_cons, feed_alphabet (by omega), map_cons, feed_alphabet (by omega), hc]
    rfl
  | case3 a b =>
    have ha := a.toNat_lt
    have hb := b.toNat_lt
    have hs := collect_second (output ++ [a]) b (show 0 < 4 by decide)
    rw [Nat.add_zero] at hs
    rw [sextets, map_cons, feed_alphabet (by omega), map_cons, feed_alphabet (by omega),
      collect_first output a (by omega), map_cons, feed_alphabet (by omega), hs, append_assoc]
    rfl
  | case4 a b c rest ih =>
    have ha := a.toNat_lt
    have hb := b.toNat_lt
    have hc := c.toNat_lt
    rw [sextets, map_cons, feed_alphabet (by omega), map_cons, feed_alphabet (by omega),
      collect_first output a (by omega), map_cons, feed_alphabet (by omega),
      collect_second _ b (by omega), map_cons, feed_alphabet (by omega), collect_third, ih]
    simp

lemma collect_balance (decoder : Decoder) (value : Nat) (hb : decoder.bitsCollected < 8) :
    (decoder.collect value).bitsCollected < 8 ∧
      8 * (decoder.collect value).output.length + (decoder.collect value).bitsCollected =
        8 * decoder.output.length + decoder.bitsCollected + 6 := by
  rw [collect]
  split
  · simp only [length_append, length_singleton]
    omega
  · next hl => exact ⟨Nat.not_le.mp hl, rfl⟩

-- Six bits come in with each character and eight go out with each byte.
lemma foldlM_feed_cases (input : List Char) (decoder : Decoder) (hb : decoder.bitsCollected < 8) :
    (∃ result, input.foldlM feed decoder = .ok result ∧ result.bitsCollected < 8 ∧
        8 * result.output.length + result.bitsCollected =
          8 * decoder.output.length + decoder.bitsCollected + 6 * input.length) ∨
      input.foldlM feed decoder = .error (.Invalid "Invalid base64 character") := by
  induction input generalizing decoder with
  | nil => exact .inl ⟨decoder, rfl, hb, rfl⟩
  | cons c input ih =>
    rw [foldlM_cons, feed]
    split
    · exact .inr rfl
    · next hc =>
      have hl : c.toNat < DECODE_TABLE.length := by
        rw [show DECODE_TABLE.length = 128 by decide +kernel]
        omega
      rw [getElem?_eq_getElem hl]
      dsimp only
      split
      · exact .inr rfl
      · rcases ih (decoder.collect _) (collect_balance decoder _ hb).1 with
          ⟨result, hr, hl, he⟩ | he
        · refine .inl ⟨result, hr, hl, ?_⟩
          rw [he, (collect_balance decoder _ hb).2, length_cons]
          omega
        · exact .inr he

end Decoder

lemma rdropWhile_padding (hc : ∀ c ∈ chars, c ≠ '=') (count : Nat) :
    (chars ++ replicate count '=').rdropWhile (· = '=') = chars := by
  induction count with
  | zero =>
    rw [replicate_zero, append_nil, rdropWhile_eq_self_iff]
    exact fun hn he => hc _ (getLast_mem hn) (of_decide_eq_true he)
  | succ count ih =>
    rw [replicate_succ', ← append_assoc, rdropWhile_concat_pos _ _ _ (by decide), ih]

-- Nothing comes of an empty text either way.
lemma base64Decode_eq (input : List Char) : base64Decode input =
    ((input.rdropWhile (· = '=')).foldlM Decoder.feed ⟨[], 0, 0⟩).map (·.output) := by
  rw [base64Decode]
  split
  · next he =>
    rw [he]
    rfl
  · rfl

theorem base64_decode_exact (padded : Bool) (bytes : List UInt8) (input : List Char) :
    base64Decode (encode padded bytes) = .ok bytes ∧
      base64Decode input ≠ .error .IndexOutOfBounds ∧
      ∀ output, input.getLast? ≠ some '=' → base64Decode input = .ok output →
        output.length = 3 * input.length / 4 := by
  refine ⟨?_, ?_, fun output hp hd => ?_⟩
  · have hc : ∀ c ∈ (sextets bytes).map alphabet, c ≠ '=' := by
      intro c hm
      obtain ⟨value, -, rfl⟩ := mem_map.mp hm
      exact Decoder.alphabet_ne value
    have ht : (encode padded bytes).rdropWhile (· = '=') = (sextets bytes).map alphabet := by
      cases padded
      · exact rdropWhile_padding hc 0
      · exact rdropWhile_padding hc _
    rw [base64Decode_eq, ht]
    exact Decoder.feed_sextets bytes []
  · rw [base64Decode_eq]
    rcases Decoder.foldlM_feed_cases (input.rdropWhile (· = '=')) ⟨[], 0, 0⟩ (by decide) with
      ⟨result, hr, -⟩ | he
    · rw [hr]
      exact fun h => by cases h
    · rw [he]
      exact fun h => by cases h
  · have ht : input.rdropWhile (· = '=') = input := by
      rw [rdropWhile_eq_self_iff]
      intro hn he
      exact hp (by rw [getLast?_eq_getLast_of_ne_nil hn, of_decide_eq_true he])
    rw [base64Decode_eq, ht] at hd
    rcases Decoder.foldlM_feed_cases input ⟨[], 0, 0⟩ (by decide) with ⟨result, hr, hb, he⟩ | he
    · rw [hr] at hd
      cases hd
      dsimp only [length_nil] at he ⊢
      omega
    · rw [he] at hd
      cases hd

end ZeroOS.Identity.Base64
