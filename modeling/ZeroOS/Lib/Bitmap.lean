import Mathlib.Data.List.Perm.Basic
import Mathlib.Data.List.Nodup

/-!
Bitmaps in words of 64 bits.
-/

namespace Bitmap

open List

def mask (bit : Nat) : UInt64 := 1 <<< UInt64.ofNat bit

def test (words : List UInt64) (word bit : Nat) : Bool :=
  words.getD word 0 &&& mask bit != 0

def set (words : List UInt64) (word bit : Nat) : List UInt64 :=
  words.set word (words.getD word 0 ||| mask bit)

section

variable (words : List UInt64) (word i : Nat)

def clear (bit : Nat) : List UInt64 :=
  words.set word (words.getD word 0 &&& ~~~mask bit)

-- The number of zero bits below the lowest bit that is set, 64 if there is none.
def trailingZeros (word : UInt64) : Nat :=
  ((List.range 64).find? (fun bit => word.toBitVec.getLsbD bit)).getD 64

-- The bit at a position counted over all words.
def member : Bool := test words (i / 64) (i % 64)

def positions : List Nat :=
  (List.range (words.length * 64)).filter (member words)

-- The number of bits that are set.
def ones : Nat := (positions words).length

lemma getLsbD_mask (hb : bit < 64) (i : Nat) :
    (mask bit).toBitVec.getLsbD i = decide (i = bit) := by
  have hs : (UInt64.ofNat bit).toNat % 64 = bit := by
    rw [UInt64.toNat_ofNat', Nat.mod_eq_of_lt (a := bit) (by omega), Nat.mod_eq_of_lt hb]
  simp only [mask, UInt64.toBitVec_shiftLeft, BitVec.shiftLeft_eq', BitVec.toNat_umod]
  simp
  grind

lemma test_eq_getLsbD (words : List UInt64) (word : Nat) (hb : bit < 64) :
    test words word bit = (words.getD word 0).toBitVec.getLsbD bit := by
  have hf : words.getD word 0 &&& mask bit ≠ 0 ↔
      (words.getD word 0).toBitVec.getLsbD bit = true := by
    constructor
    · intro hn
      by_contra ho
      apply hn
      apply UInt64.toBitVec_inj.mp
      apply BitVec.eq_of_getLsbD_eq
      intro i hi
      rw [UInt64.toBitVec_and, BitVec.getLsbD_and, getLsbD_mask hb]
      by_cases he : i = bit
      · subst he
        rw [Bool.eq_false_iff.mpr ho]
        simp
      · simp [he]
    · intro hon he
      have ht := congrArg (fun w : UInt64 => w.toBitVec.getLsbD bit) he
      simp only [UInt64.toBitVec_and, BitVec.getLsbD_and, getLsbD_mask hb, hon] at ht
      simp at ht
  rw [Bool.eq_iff_iff, ← hf]
  simp [test]

@[simp] lemma length_set : (set words word bit).length = words.length := List.length_set

@[simp] lemma length_clear (bit : Nat) :
    (clear words word bit).length = words.length := List.length_set

lemma member_eq_getLsbD : member words i = (words.getD (i / 64) 0).toBitVec.getLsbD (i % 64) :=
  test_eq_getLsbD words (i / 64) (Nat.mod_lt i (by decide))

end

lemma lt_of_member (h : member words i = true) : i < words.length * 64 := by
  by_contra hg
  have ho : words.length ≤ i / 64 := by omega
  rw [member_eq_getLsbD, getD_eq_getElem?_getD, getElem?_eq_none ho] at h
  simp at h

@[simp] lemma mem_positions : i ∈ positions words ↔ member words i = true := by
  rw [positions, mem_filter, mem_range]
  exact and_iff_right_of_imp lt_of_member

lemma nodup_positions : (positions words).Nodup := nodup_range.filter _

lemma getD_set {words : List UInt64} :
    (words.set word value).getD other 0 =
      if word = other ∧ word < words.length then value else words.getD other 0 := by
  grind

lemma member_set (hw : word < words.length) (hb : bit < 64) :
    member (set words word bit) i = true ↔ i = word * 64 + bit ∨ member words i = true := by
  rw [member_eq_getLsbD, member_eq_getLsbD, set, getD_set]
  by_cases he : word = i / 64
  · rw [if_pos ⟨he, hw⟩, UInt64.toBitVec_or, BitVec.getLsbD_or, getLsbD_mask hb, ← he]
    have hi : i % 64 = bit ↔ i = word * 64 + bit := by omega
    simp [hi, or_comm]
  · have hi : i ≠ word * 64 + bit := by omega
    simp [he, hi]

lemma member_clear (hw : word < words.length) (hb : bit < 64) (i : Nat) :
    member (clear words word bit) i = true ↔ i ≠ word * 64 + bit ∧ member words i = true := by
  rw [member_eq_getLsbD, member_eq_getLsbD, clear, getD_set]
  have hl : i % 64 < 64 := Nat.mod_lt i (by decide)
  by_cases he : word = i / 64
  · rw [if_pos ⟨he, hw⟩, UInt64.toBitVec_and, BitVec.getLsbD_and, UInt64.toBitVec_not,
      BitVec.getLsbD_not, getLsbD_mask hb, ← he]
    have hi : i % 64 = bit ↔ i = word * 64 + bit := by omega
    simp [hi, hl, and_comm]
  · have hi : i ≠ word * 64 + bit := by omega
    simp [he, hi]

lemma positions_perm_cons (ho : member words i = false)
    (hm : ∀ j, member changed j = true ↔ j = i ∨ member words j = true) :
    (positions changed).Perm (i :: positions words) := by
  have hn : (i :: positions words).Nodup := nodup_cons.mpr ⟨by simp [ho], nodup_positions⟩
  rw [perm_ext_iff_of_nodup nodup_positions hn]
  intro j
  rw [mem_cons, mem_positions, mem_positions, hm]

lemma member_replicate_zero {count i : Nat} : member (replicate count 0) i = false := by
  rw [member_eq_getLsbD]
  have hz : (replicate count (0 : UInt64)).getD (i / 64) 0 = 0 := by
    rw [getD_eq_getElem?_getD, getElem?_replicate]
    split <;> rfl
  rw [hz]
  simp

lemma positions_replicate_zero {count : Nat} : positions (replicate count 0) = [] := by
  rw [eq_nil_iff_forall_not_mem]
  simp [member_replicate_zero]

lemma trailingZeros_spec (hn : word ≠ 0) :
    trailingZeros word < 64 ∧ word.toBitVec.getLsbD (trailingZeros word) = true := by
  cases hf : (range 64).find? (fun bit => word.toBitVec.getLsbD bit) with
  | none =>
    exfalso
    apply hn
    apply UInt64.toBitVec_inj.mp
    apply BitVec.eq_of_getLsbD_eq
    intro i hi
    have ho := find?_eq_none.mp hf i (mem_range.mpr hi)
    simpa using ho
  | some bit =>
    have hon : word.toBitVec.getLsbD bit = true := by simpa using find?_some hf
    have hm := mem_of_find?_eq_some hf
    rw [trailingZeros, hf]
    exact ⟨mem_range.mp hm, hon⟩

lemma member_trailingZeros (hn : words.getD word 0 ≠ 0) :
    member words (word * 64 + trailingZeros (words.getD word 0)) = true := by
  obtain ⟨hl, ho⟩ := trailingZeros_spec hn
  have hd : (word * 64 + trailingZeros (words.getD word 0)) / 64 = word := by omega
  have hm : (word * 64 + trailingZeros (words.getD word 0)) % 64 =
      trailingZeros (words.getD word 0) := by omega
  rw [member_eq_getLsbD, hd, hm, ho]

lemma word_ne_zero_of_member (h : member words i = true) : words.getD (i / 64) 0 ≠ 0 := by
  intro hz
  rw [member_eq_getLsbD, hz] at h
  simp at h

end Bitmap
