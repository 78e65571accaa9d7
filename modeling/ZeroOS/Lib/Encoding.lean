import Mathlib.Data.List.Basic

/-!
Unambiguous encodings.
-/

namespace Encoding

variable {α β : Type}

def Delimited (valid : α → Prop) (encode : α → List UInt8) : Prop :=
  ∀ first second rest rest', valid first → valid second →
    encode first ++ rest = encode second ++ rest' → first = second ∧ rest = rest'

lemma delimited_of_width (width : Nat)
    (hi : Function.Injective encode) (hw : ∀ value, (encode value).length = width) :
    Delimited (fun _ => True) encode := by
  intro first second rest rest' _ _ h
  obtain ⟨hs, hr⟩ := List.append_inj h (by rw [hw, hw])
  exact ⟨hi hs, hr⟩

lemma Delimited.via (he : Delimited valid encode) (hi : Function.Injective image) :
    Delimited (fun value => valid (image value)) fun value => encode (image value) := by
  intro first second rest rest' hf hs h
  obtain ⟨ha, hr⟩ := he _ _ _ _ hf hs h
  exact ⟨hi ha, hr⟩

lemma Delimited.pair (hl : Delimited valid left) (hr : Delimited good right) :
    Delimited (fun value : α × β => valid value.1 ∧ good value.2)
      fun value => left value.1 ++ right value.2 := by
  rintro ⟨first, first'⟩ ⟨second, second'⟩ rest rest' ⟨hv, hg⟩ ⟨hv', hg'⟩ h
  rw [List.append_assoc, List.append_assoc] at h
  obtain ⟨rfl, hb⟩ := hl _ _ _ _ hv hv' h
  obtain ⟨rfl, he⟩ := hr _ _ _ _ hg hg' hb
  exact ⟨rfl, he⟩

lemma Delimited.flatMap {first second : List α}
    (he : Delimited valid encode) (hl : first.length = second.length)
    (hf : ∀ value ∈ first, valid value) (hs : ∀ value ∈ second, valid value)
    (h : first.flatMap encode ++ rest = second.flatMap encode ++ rest') :
    first = second ∧ rest = rest' := by
  induction first generalizing second with
  | nil =>
    obtain rfl := List.length_eq_zero_iff.mp hl.symm
    exact ⟨rfl, h⟩
  | cons value values ih =>
    obtain ⟨other, others, rfl⟩ := List.exists_cons_of_length_eq_add_one hl.symm
    simp only [List.flatMap_cons, List.append_assoc] at h
    obtain ⟨rfl, hb⟩ := he _ _ _ _ (hf value (by simp)) (hs other (by simp)) h
    obtain ⟨rfl, hr⟩ := ih (Nat.succ.inj hl) (fun v hv => hf v (by simp [hv]))
      (fun v hv => hs v (by simp [hv])) hb
    exact ⟨rfl, hr⟩

lemma Delimited.counted (hc : Delimited small count) (he : Delimited valid encode) :
    Delimited (fun values : List α => small values.length ∧ ∀ value ∈ values, valid value)
      fun values => count values.length ++ values.flatMap encode := by
  rintro first second rest rest' ⟨hs, hv⟩ ⟨hs', hv'⟩ h
  rw [List.append_assoc, List.append_assoc] at h
  obtain ⟨hl, hb⟩ := hc _ _ _ _ hs hs' h
  exact he.flatMap hl hv hv' hb

end Encoding
