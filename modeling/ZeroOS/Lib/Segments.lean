import Mathlib.Data.List.Infix

/-!
Sequences written as segments, each of them behind a separator.
-/

namespace Segments

open List

variable {α : Type} {sep : α}

def spell (sep : α) (segments : List (List α)) : List α := segments.flatMap (sep :: ·)

def Free (sep : α) (segments : List (List α)) : Prop := ∀ segment ∈ segments, sep ∉ segment

lemma spell_append : spell sep (first ++ second) = spell sep first ++ spell sep second :=
  flatMap_append

lemma spell_concat : spell sep (segments ++ [last]) = spell sep segments ++ sep :: last := by
  simp [spell]

lemma Free.append (hf : Free sep first) (hs : Free sep second) : Free sep (first ++ second) := by
  intro segment hm
  rcases mem_append.mp hm with hm | hm
  · exact hf segment hm
  · exact hs segment hm

variable [DecidableEq α]

lemma splitOn_append_spell (hf : Free sep (first :: rest)) :
    (first ++ spell sep rest).splitOn sep = first :: rest := by
  induction rest generalizing first with
  | nil =>
    rw [spell, flatMap_nil, append_nil]
    exact splitOn_eq_singleton (hf first mem_cons_self)
  | cons segment rest ih =>
    have hs := splitOn_append_cons_self_of_not_mem (hf first mem_cons_self)
      (segment ++ spell sep rest)
    rw [ih (fun other hm => hf other (mem_cons_of_mem first hm))] at hs
    exact hs

lemma splitOn_spell (hf : Free sep segments) :
    (spell sep segments).splitOn sep = [] :: segments := by
  have he : Free sep ([] :: segments) := by simpa [Free] using hf
  exact splitOn_append_spell he

lemma spell_injective (hf : Free sep first) (he : Free sep second)
    (h : spell sep first = spell sep second) : first = second := by
  have hs := congrArg (splitOn sep) h
  rw [splitOn_spell hf, splitOn_spell he] at hs
  exact tail_eq_of_cons_eq hs

lemma spell_splitOn : spell sep (xs.splitOn sep) = sep :: xs := by
  induction xs with
  | nil => rfl
  | cons x xs ih =>
    rw [splitOn_cons_eq_if_modifyHead]
    by_cases hs : x = sep
    · rw [if_pos (by simpa using hs), hs, ← ih]
      rfl
    · rw [if_neg (by simpa using hs)]
      cases hp : xs.splitOn sep with
      | nil => exact absurd hp (splitOn_ne_nil sep xs)
      | cons first rest =>
        rw [hp] at ih
        exact congrArg (fun tail => sep :: x :: tail) (tail_eq_of_cons_eq ih)

lemma free_splitOn (sep : α) (xs : List α) : Free sep (xs.splitOn sep) := by
  induction xs with
  | nil => simp [Free]
  | cons x xs ih =>
    rw [splitOn_cons_eq_if_modifyHead]
    by_cases hs : x = sep
    · rw [if_pos (by simpa using hs)]
      simpa [Free] using ih
    · rw [if_neg (by simpa using hs)]
      cases hp : xs.splitOn sep with
      | nil => exact absurd hp (splitOn_ne_nil sep xs)
      | cons first rest =>
        rw [hp] at ih
        simpa [Free, Ne.symm hs] using ih

-- Two separators in a row, or one at the end, are an empty segment.
lemma nil_mem_of_spell (hf : Free sep segments) (hr : Free sep rest)
    (h : spell sep segments = before ++ sep :: spell sep rest) : [] ∈ segments := by
  have he : Free sep ([] :: rest) := by simpa [Free] using hr
  cases before with
  | nil =>
    rw [spell_injective hf he h]
    exact mem_cons_self
  | cons x before =>
    have hh : x = sep := by
      cases segments with
      | nil => cases h
      | cons segment others => exact (head_eq_of_cons_eq h).symm
    have hs : spell sep segments = spell sep (before.splitOn sep ++ [] :: rest) := by
      rw [h, hh, spell_append, spell_splitOn]
      rfl
    rw [spell_injective hf ((free_splitOn sep before).append he) hs]
    exact mem_append_right _ mem_cons_self

-- What comes behind a whole number of segments starts a new one.
lemma isPrefix_of_spell_append (hb : Free sep base) (hf : Free sep segments)
    (h : spell sep base ++ rest = spell sep segments) (hr : rest = [] ∨ rest.head? = some sep) :
    base <+: segments := by
  rcases hr with rfl | hr
  · rw [append_nil] at h
    rw [spell_injective hb hf h]
  · obtain ⟨more, rfl⟩ := head?_eq_some_iff.mp hr
    rw [← spell_splitOn, ← spell_append] at h
    exact ⟨_, spell_injective (hb.append (free_splitOn sep more)) hf h⟩

lemma findIdx_reverse_spell (sep : α) (segments : List (List α)) (hl : sep ∉ last) :
    (spell sep (segments ++ [last])).reverse.findIdx? (· = sep) = some last.length := by
  have hn : last.reverse.findIdx? (· = sep) = none := by
    rw [findIdx?_eq_none_iff]
    intro x hm
    rw [decide_eq_false_iff_not]
    rintro rfl
    exact hl (mem_reverse.mp hm)
  rw [spell_concat, reverse_append, reverse_cons, append_assoc, findIdx?_append, hn]
  simp [findIdx?_cons]

end Segments
