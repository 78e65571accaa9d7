import Mathlib.Algebra.Ring.Nat
import Mathlib.Tactic.Common

/-!
Words and texts as bytes.
-/

namespace ZeroOS

open BitVec

def leBytes32 (v : UInt32) : Vector UInt8 4 :=
  #v[v.toUInt8, (v >>> 8).toUInt8, (v >>> 16).toUInt8, (v >>> 24).toUInt8]

def leBytes64 (v : UInt64) : Vector UInt8 8 :=
  #v[v.toUInt8, (v >>> 8).toUInt8, (v >>> 16).toUInt8, (v >>> 24).toUInt8,
    (v >>> 32).toUInt8, (v >>> 40).toUInt8, (v >>> 48).toUInt8, (v >>> 56).toUInt8]

def utf8Bytes (s : String) : List UInt8 := s.toByteArray.data.toList

def fromUtf8 (bytes : List UInt8) : Option String := String.fromUTF8? ⟨bytes.toArray⟩

def leU32 (b0 b1 b2 b3 : UInt8) : UInt32 :=
  b0.toUInt32 ||| (b1.toUInt32 <<< 8) ||| (b2.toUInt32 <<< 16) ||| (b3.toUInt32 <<< 24)

-- The word that the first four bytes spell.
def leWord32 : List UInt8 → UInt32
  | b0 :: b1 :: b2 :: b3 :: _ => leU32 b0 b1 b2 b3
  | _ => 0

def leWords32 : Nat → List UInt8 → List UInt32
  | 0, _ => []
  | count + 1, bytes => leWord32 bytes :: leWords32 count (bytes.drop 4)

def wordBytes (words : List UInt32) : List UInt8 :=
  words.flatMap (fun word => (leBytes32 word).toList)

-- A signed word extended to 64 bits.
lemma toNat_toInt64 (x : Int32) : x.toInt64.toUInt64.toNat =
    x.toUInt32.toNat + if 2 ^ 31 ≤ x.toUInt32.toNat then 2 ^ 64 - 2 ^ 32 else 0 := by
  have he : x.toInt64.toUInt64.toNat = (x.toBitVec.signExtend 64).toNat := rfl
  rw [he, toNat_signExtend, msb_eq_decide, toNat_setWidth_of_le (by decide)]
  simp
  rfl

lemma fromUtf8_utf8Bytes (s : String) : fromUtf8 (utf8Bytes s) = some s := by
  have hv : ByteArray.IsValidUTF8 ⟨(utf8Bytes s).toArray⟩ := s.isValidUTF8
  unfold fromUtf8 String.fromUTF8?
  rw [dif_pos hv]
  rfl

lemma utf8Bytes_of_fromUtf8 (h : fromUtf8 bytes = some s) : bytes = utf8Bytes s := by
  unfold fromUtf8 String.fromUTF8? at h
  split at h
  · cases h
    rfl
  · cases h

lemma leU32_toUInt8 {v : UInt32} :
    leU32 v.toUInt8 (v >>> 8).toUInt8 (v >>> 16).toUInt8 (v >>> 24).toUInt8 = v := by
  apply UInt32.toBitVec_inj.mp
  apply eq_of_getLsbD_eq
  simp only [leU32, UInt32.toBitVec_or, UInt32.toBitVec_shiftLeft, UInt8.toBitVec_toUInt32,
    UInt32.toBitVec_toUInt8, UInt32.toBitVec_shiftRight, UInt32.toBitVec_ofNat, getLsbD_or]
  -- Each bit comes from the one byte that holds it.
  all_goals grind

lemma leBytes32_leU32 : (leBytes32 (leU32 b0 b1 b2 b3)).toList = [b0, b1, b2, b3] := by
  refine List.cons_eq_cons.mpr ⟨?_, List.cons_eq_cons.mpr ⟨?_, List.cons_eq_cons.mpr
    ⟨?_, List.cons_eq_cons.mpr ⟨?_, rfl⟩⟩⟩⟩
  all_goals
    apply UInt8.toBitVec_inj.mp
    apply eq_of_getLsbD_eq
    simp only [leU32, UInt32.toBitVec_or, UInt32.toBitVec_shiftLeft, UInt8.toBitVec_toUInt32,
      UInt32.toBitVec_toUInt8, UInt32.toBitVec_shiftRight, UInt32.toBitVec_ofNat, getLsbD_or,
      getLsbD_setWidth, shiftLeft_eq', ushiftRight_eq', getLsbD_shiftLeft, getLsbD_ushiftRight]
    grind

section

variable (word : UInt32) (words : List UInt32) (rest : List UInt8)

lemma leWord32_leBytes32 : leWord32 ((leBytes32 word).toList ++ rest) = word := leU32_toUInt8

@[simp] lemma length_leWords32 : (leWords32 count bytes).length = count := by
  induction count generalizing bytes with
  | zero => rfl
  | succ _ ih => simp [leWords32, ih]

@[simp] lemma length_wordBytes : (wordBytes words).length = words.length * 4 := by
  induction words with
  | nil => rfl
  | cons _ _ ih =>
    simp only [wordBytes, List.flatMap_cons, List.length_append, Vector.length_toList] at ih ⊢
    rw [List.length_cons]
    omega

lemma wordBytes_cons_append :
    wordBytes (word :: words) ++ rest = (leBytes32 word).toList ++ (wordBytes words ++ rest) := by
  simp [wordBytes]

lemma leWords32_wordBytes : leWords32 words.length (wordBytes words ++ rest) = words := by
  induction words with
  | nil => rfl
  | cons _ _ ih =>
    rw [List.length_cons, leWords32, wordBytes_cons_append, leWord32_leBytes32,
      List.drop_left' (Vector.length_toList ..), ih]

end

lemma leWord32_drop (h : words[i]? = some word) :
    leWord32 ((wordBytes words ++ rest).drop (i * 4)) = word := by
  induction words generalizing i with
  | nil => simp at h
  | cons first _ ih =>
    cases i with
    | zero =>
      obtain rfl : first = word := by simpa using h
      exact leWord32_leBytes32 ..
    | succ =>
      rw [Nat.succ_mul, Nat.add_comm, ← List.drop_drop]
      exact ih (by simpa using h)

-- Different words and texts have different bytes.

lemma leBytes32_inj : leBytes32 v = leBytes32 w ↔ v = w := by
  refine ⟨?_, congrArg leBytes32⟩
  intro h
  rw [← leWord32_leBytes32 v [], h, leWord32_leBytes32]

lemma leBytes64_inj : leBytes64 v = leBytes64 w ↔ v = w := by
  refine ⟨?_, congrArg leBytes64⟩
  intro h
  have hb := congrArg (fun bytes : Vector UInt8 8 => bytes.toList.map UInt8.toNat) h
  have hv := v.toNat_lt
  have hw := w.toNat_lt
  simp [leBytes64, Nat.shiftRight_eq_div_pow] at hb
  apply UInt64.toNat_inj.mp
  omega

lemma utf8Bytes_inj : utf8Bytes s = utf8Bytes t ↔ s = t := by
  refine ⟨?_, congrArg utf8Bytes⟩
  intro h
  have ht := fromUtf8_utf8Bytes s
  rw [h, fromUtf8_utf8Bytes] at ht
  exact (Option.some.inj ht).symm

lemma toList_append_inj {v w : Vector UInt8 n} :
    v.toList ++ rest = w.toList ++ rest' ↔ v = w ∧ rest = rest' := by
  constructor
  · intro h
    obtain ⟨hs, hr⟩ := List.append_inj h (by simp)
    exact ⟨Vector.toList_inj.mp hs, hr⟩
  · rintro ⟨rfl, rfl⟩
    rfl

end ZeroOS
