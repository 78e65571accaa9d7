import Mathlib.Tactic.Common
import Std.Data.ExtTreeMap

/-!
Ordered maps. `BTreeMap` is the extensional tree map of the standard library under the key type's
own order.
-/

abbrev BTreeMap (κ : Type) (ν : Type) [Ord κ] := Std.ExtTreeMap κ ν compare

namespace BTreeMap

open Option
open Std

variable {κ ν μ : Type} [Ord κ] [TransOrd κ] [LawfulEqOrd κ]

lemma get_insert [DecidableEq κ] (m : BTreeMap κ ν) (key other : κ) (value : ν) :
    (m.insert key value)[other]? = if key = other then some value else m[other]? := by
  simp [ExtTreeMap.getElem?_insert]

lemma get_insert_ne {m : BTreeMap κ ν} (hn : key ≠ other) :
    (m.insert key value)[other]? = m[other]? := by
  simp [ExtTreeMap.getElem?_insert, hn]

lemma get_erase [DecidableEq κ] (m : BTreeMap κ ν) (key other : κ) :
    (m.erase key)[other]? = if key = other then none else m[other]? := by
  simp [ExtTreeMap.getElem?_erase]

lemma get_erase_ne (m : BTreeMap κ ν) (hn : key ≠ other) : (m.erase key)[other]? = m[other]? := by
  simp [ExtTreeMap.getElem?_erase, hn]

lemma get_map (m : BTreeMap κ ν) (f : κ → ν → μ) (key : κ) :
    (m.map f)[key]? = m[key]?.map (f key) := by
  simp

lemma get_modify [DecidableEq κ] {m : BTreeMap κ ν} :
    (m.modify key f)[other]? = if key = other then m[other]?.map f else m[other]? := by
  by_cases he : key = other
  · subst other
    simp
  · simp [ExtTreeMap.getElem?_modify, he]

lemma get_modify_ne (m : BTreeMap κ ν) (f : ν → ν) (hn : key ≠ other) :
    (m.modify key f)[other]? = m[other]? := by
  simp [ExtTreeMap.getElem?_modify, hn]

lemma get_filter {m : BTreeMap κ ν} : (m.filter keep)[key]? = m[key]?.filter (keep key) := by
  simp [ExtTreeMap.getElem?_filter]

omit [LawfulEqOrd κ] in
lemma mem_iff (m : BTreeMap κ ν) : key ∈ m ↔ ∃ value, m[key]? = some value := by
  rw [ExtTreeMap.mem_iff_isSome_getElem?, isSome_iff_exists]

omit [LawfulEqOrd κ] in
lemma not_mem_iff {m : BTreeMap κ ν} : key ∉ m ↔ m[key]? = none := by
  rw [ExtTreeMap.mem_iff_isSome_getElem?, not_isSome_iff_eq_none]

lemma ext_get {m n : BTreeMap κ ν} (h : ∀ key : κ, m[key]? = n[key]?) : m = n :=
  ExtTreeMap.ext_getElem? h

lemma ext_at {m n : BTreeMap κ ν} (key : κ) (hk : m[key]? = n[key]?)
    (ho : ∀ other, key ≠ other → m[other]? = n[other]?) : m = n := by
  apply ext_get
  intro other
  by_cases he : key = other
  · rw [← he, hk]
  · exact ho other he

lemma mem_insert [DecidableEq κ] {m : BTreeMap κ ν} (other : κ) :
    other ∈ m.insert key value ↔ other = key ∨ other ∈ m := by
  by_cases he : key = other
  · simp [he]
  · simp [he, Ne.symm he]

lemma erase_ne {m : BTreeMap κ ν} (hg : m[key]? = some value) : m.erase key ≠ m := by
  intro hs
  rw [← hs] at hg
  simp at hg

-- What holds of every value, before and after a change.

def Every (m : BTreeMap κ ν) (good : ν → Prop) : Prop :=
  ∀ (key : κ) (value : ν), m[key]? = some value → good value

omit [LawfulEqOrd κ] in
lemma Every.mono {m : BTreeMap κ ν} (he : Every m good)
    (hi : ∀ value, good value → weaker value) : Every m weaker :=
  fun key value hv => hi value (he key value hv)

lemma Every.insert [DecidableEq κ] (hev : Every m good)
    (key : κ) (hv : good value) : Every (m.insert key value) good := by
  intro other found hg
  rw [get_insert] at hg
  by_cases he : key = other
  · rw [if_pos he] at hg
    cases hg
    exact hv
  · rw [if_neg he] at hg
    exact hev _ _ hg

lemma Every.erase [DecidableEq κ] {m : BTreeMap κ ν} {good : ν → Prop} (hv : Every m good)
    (key : κ) : Every (m.erase key) good := by
  intro other found hg
  rw [get_erase] at hg
  by_cases he : key = other
  · rw [if_pos he] at hg
    cases hg
  · rw [if_neg he] at hg
    exact hv _ _ hg

-- What holds of some value, and which changes leave it so.

def Any (m : BTreeMap κ ν) (good : ν → Prop) : Prop :=
  ∃ (key : κ) (value : ν), m[key]? = some value ∧ good value

omit [LawfulEqOrd κ] in
lemma Any.mono {m : BTreeMap κ ν} (ha : Any m good)
    (hi : ∀ (key : κ) (value : ν), m[key]? = some value → good value → weaker value) :
    Any m weaker := by
  obtain ⟨key, value, hv, hg⟩ := ha
  exact ⟨key, value, hv, hi key value hv hg⟩

lemma any_insert_self {m : BTreeMap κ ν} (hg : good value) : Any (m.insert key value) good :=
  ⟨key, value, by simp, hg⟩

lemma Any.of_insert [DecidableEq κ] {key : κ}
    (ha : Any (m.insert key value) good) : good value ∨ Any m good := by
  obtain ⟨other, found, hg, ho⟩ := ha
  rw [get_insert] at hg
  by_cases he : key = other
  · rw [if_pos he] at hg
    cases hg
    exact .inl ho
  · rw [if_neg he] at hg
    exact .inr ⟨other, found, hg, ho⟩

lemma Any.of_erase [DecidableEq κ] {key : κ} (ha : Any (m.erase key) good) : Any m good := by
  obtain ⟨other, found, hg, ho⟩ := ha
  rw [get_erase] at hg
  by_cases he : key = other
  · rw [if_pos he] at hg
    cases hg
  · rw [if_neg he] at hg
    exact ⟨other, found, hg, ho⟩

-- An entry that is not good may be overwritten or given up.

lemma Any.insert {key : κ} (ha : Any m good) (hb : ∀ old, m[key]? = some old → ¬ good old)
    (value : ν) : Any (m.insert key value) good := by
  obtain ⟨other, found, hg, ho⟩ := ha
  have hn : key ≠ other := by
    rintro rfl
    exact hb _ hg ho
  exact ⟨other, found, by rw [get_insert_ne hn, hg], ho⟩

lemma Any.erase {key : κ} {good : ν → Prop} (ha : Any m good)
    (hb : ∀ old, m[key]? = some old → ¬ good old) : Any (m.erase key) good := by
  obtain ⟨other, found, hg, ho⟩ := ha
  have hn : key ≠ other := by
    rintro rfl
    exact hb _ hg ho
  exact ⟨other, found, by rw [get_erase_ne _ hn, hg], ho⟩

-- Changing an entry leaves the keys alone.

lemma mem_modify [DecidableEq κ] {m : BTreeMap κ ν} : other ∈ m.modify key change ↔ other ∈ m := by
  rw [mem_iff, mem_iff, get_modify]
  by_cases he : key = other
  · simp [he]
  · rw [if_neg he]

lemma mem_insert_of_get [DecidableEq κ] {m : BTreeMap κ ν} (hg : m[key]? = some old) :
    other ∈ m.insert key value ↔ other ∈ m := by
  rw [mem_iff, mem_iff, get_insert]
  by_cases he : key = other
  · simp [← he, hg]
  · rw [if_neg he]

lemma erase_insert (m : BTreeMap κ ν) (key : κ) : (m.insert key value).erase key = m.erase key := by
  refine ext_at key (by simp) fun other hn => ?_
  rw [get_erase_ne _ hn, get_erase_ne _ hn, get_insert_ne hn]

lemma insert_insert {m : BTreeMap κ ν} :
    (m.insert key first).insert key second = m.insert key second := by
  refine ext_at key (by simp) fun other hn => ?_
  rw [get_insert_ne hn, get_insert_ne hn, get_insert_ne hn]

-- Writing back what is there, and erasing what is not.

lemma insert_of_get {m : BTreeMap κ ν} (hg : m[key]? = some value) : m.insert key value = m :=
  ext_at key (by simp [hg]) fun _ hn => get_insert_ne hn

lemma erase_of_get_none {m : BTreeMap κ ν} (hg : m[key]? = none) : m.erase key = m :=
  ext_at key (by simp [hg]) fun _ hn => get_erase_ne _ hn

lemma map_insert (m : BTreeMap κ ν) (f : κ → ν → μ) (key : κ) (value : ν) :
    (m.insert key value).map f = (m.map f).insert key (f key value) := by
  refine ext_at key (by simp) fun other hn => ?_
  rw [get_insert_ne hn, get_map, get_map, get_insert_ne hn]

lemma map_erase (m : BTreeMap κ ν) (f : κ → ν → μ) : (m.erase key).map f = (m.map f).erase key := by
  refine ext_at key (by simp) fun other hn => ?_
  rw [get_erase_ne _ hn, get_map, get_map, get_erase_ne _ hn]

lemma map_modify {m : BTreeMap κ ν} (image : μ → μ)
    (hc : ∀ value, f key (change value) = image (f key value)) :
    (m.modify key change).map f = (m.map f).modify key image := by
  refine ext_at key ?_ fun other hn => ?_
  · cases hg : m[key]? <;> simp [hg, hc]
  · rw [get_modify_ne _ _ hn, get_map, get_map, get_modify_ne _ _ hn]

lemma map_modify_of_same (m : BTreeMap κ ν) (f : κ → ν → μ) (key : κ)
    (hs : ∀ value, f key (change value) = f key value) :
    (m.modify key change).map f = m.map f := by
  refine ext_at key ?_ fun other hn => ?_
  · cases hg : m[key]? <;> simp [hg, hs]
  · rw [get_map, get_map, get_modify_ne _ _ hn]

lemma map_filter {m : BTreeMap κ ν}
    (keepImage : κ → μ → Bool) (hs : ∀ key value, keepImage key (f key value) = keep key value) :
    (m.filter keep).map f = (m.map f).filter keepImage := by
  apply ext_get
  intro key
  simp
  cases m[key]? with
  | none => rfl
  | some =>
    simp only [Option.map_some, Option.filter, hs]
    split <;> rfl

lemma insert_eq_modify (m : BTreeMap κ ν) (key : κ) (change : ν → ν)
    (hg : m[key]? = some value) : m.insert key (change value) = m.modify key change := by
  refine ext_at key (by simp [hg]) fun other hn => ?_
  rw [get_insert_ne hn, get_modify_ne _ _ hn]

-- A map made of a list in key order lists it back.

lemma get_ofList [DecidableEq κ]
    (ho : entries.Pairwise fun p q => compare p.1 q.1 = .lt) {key : κ} {value : ν} :
    (ExtTreeMap.ofList entries compare)[key]? = some value ↔ (key, value) ∈ entries := by
  have hd : entries.Pairwise fun p q => ¬ compare p.1 q.1 = .eq := by
    refine ho.imp ?_
    intro p q hl he
    rw [hl] at he
    cases he
  constructor
  · intro hg
    have hm : key ∈ ExtTreeMap.ofList entries compare := (mem_iff _).mpr ⟨value, hg⟩
    rw [ExtTreeMap.mem_ofList, List.contains_iff_mem, List.mem_map] at hm
    obtain ⟨⟨_, _⟩, hs, rfl⟩ := hm
    rw [ExtTreeMap.getElem?_ofList_of_mem compare_self hd hs] at hg
    cases hg
    exact hs
  · exact ExtTreeMap.getElem?_ofList_of_mem compare_self hd

omit [TransOrd κ] in
lemma nodup_of_sorted {entries : List (κ × ν)}
    (hs : entries.Pairwise fun p q => compare p.1 q.1 = .lt) : entries.Nodup := by
  refine hs.imp ?_
  rintro p q hl rfl
  rw [compare_self] at hl
  cases hl

-- A map is its entries in key order.
lemma toList_eq {m : BTreeMap κ ν} {entries : List (κ × ν)}
    (hs : entries.Pairwise fun p q => compare p.1 q.1 = .lt)
    (hm : ∀ key value, m[key]? = some value ↔ (key, value) ∈ entries) : m.toList = entries := by
  have hl : m.toList.Pairwise fun p q => compare p.1 q.1 = .lt := ExtTreeMap.ordered_keys_toList
  have hp : m.toList.Perm entries := by
    rw [List.perm_ext_iff_of_nodup (nodup_of_sorted hl) (nodup_of_sorted hs)]
    rintro ⟨_, _⟩
    rw [ExtTreeMap.mem_toList_iff_getElem?_eq_some, hm]
  refine hp.eq_of_pairwise ?_ hl hs
  intro p q _ _ ht hg
  exact absurd hg (OrientedCmp.not_lt_of_lt ht)

lemma toList_ofList [DecidableEq κ] {entries : List (κ × ν)}
    (hs : entries.Pairwise fun p q => compare p.1 q.1 = .lt) :
    (ExtTreeMap.ofList entries compare).toList = entries :=
  toList_eq hs fun _ _ => get_ofList hs

lemma toList_insert_last [DecidableEq κ] {m : BTreeMap κ ν} {key : κ} {value : ν}
    (hl : ∀ other entry, m[other]? = some entry → compare other key = .lt) :
    (m.insert key value).toList = m.toList ++ [(key, value)] := by
  have hs : (m.toList ++ [(key, value)]).Pairwise fun p q => compare p.1 q.1 = .lt := by
    rw [List.pairwise_append]
    refine ⟨ExtTreeMap.ordered_keys_toList, List.pairwise_singleton _ _, ?_⟩
    intro p hp q hq
    rw [List.mem_singleton.mp hq]
    exact hl p.1 p.2 (ExtTreeMap.mem_toList_iff_getElem?_eq_some.mp hp)
  refine toList_eq hs ?_
  intro other entry
  rw [get_insert, List.mem_append, ExtTreeMap.mem_toList_iff_getElem?_eq_some, List.mem_singleton,
    Prod.mk.injEq]
  split_ifs with he
  · subst he
    have hn : m[key]? ≠ some entry := fun hg => by simpa using hl key entry hg
    simp [hn, eq_comm]
  · simp [Ne.symm he]

lemma toList_erase_append [DecidableEq κ] {m : BTreeMap κ ν} {before after : List (κ × ν)}
    (he : m.toList = before ++ (key, value) :: after) :
    (m.erase key).toList = before ++ after := by
  have ho : m.toList.Pairwise fun p q => compare p.1 q.1 = .lt := ExtTreeMap.ordered_keys_toList
  have hs : (before ++ after).Sublist m.toList := by
    rw [he]
    exact (List.sublist_cons_self _ _).append_left before
  refine toList_eq (ho.sublist hs) ?_
  intro other entry
  have hm := ExtTreeMap.mem_toList_iff_getElem?_eq_some (t := m) (k := other) (v := entry)
  rw [he, List.pairwise_append] at ho
  rw [he, List.mem_append, List.mem_cons, Prod.mk.injEq] at hm
  rw [get_erase, List.mem_append]
  split_ifs with hk
  · subst hk
    simp only [false_iff, not_or]
    refine ⟨fun hb => ?_, fun ha => ?_⟩
    · simpa using ho.2.2 _ hb _ List.mem_cons_self
    · simpa using List.rel_of_pairwise_cons ho.2.1 ha
  · rw [← hm]
    simp [Ne.symm hk]

variable (m : BTreeMap κ ν) (test : κ → ν → Bool)

def eraseAll (keys : List κ) : BTreeMap κ ν :=
  keys.foldl (fun m key => m.erase key) m

lemma get_eraseAll [DecidableEq κ] :
    (eraseAll m keys)[other]? = if other ∈ keys then none else m[other]? := by
  unfold eraseAll
  induction keys generalizing m with
  | nil => simp
  | cons _ _ ih =>
    rw [List.foldl_cons, ih]
    grind

-- The first entry, in key order, that passes a test.

def firstEntry : Option (κ × ν) :=
  m.toList.find? fun entry => test entry.1 entry.2

lemma firstEntry_cases :
    ((∀ (key : κ) (value : ν), m[key]? = some value → ¬ test key value = true) ∧
        m.firstEntry test = none) ∨
      ∃ key value, m[key]? = some value ∧ test key value = true ∧
        m.firstEntry test = some (key, value) := by
  cases hf : m.firstEntry test with
  | none =>
    refine .inl ⟨?_, rfl⟩
    intro key value hg ht
    exact List.find?_eq_none.mp hf (key, value)
      (ExtTreeMap.mem_toList_iff_getElem?_eq_some.mpr hg) ht
  | some entry =>
    have ht := List.find?_some hf
    exact .inr ⟨entry.1, entry.2, ExtTreeMap.mem_toList_iff_getElem?_eq_some.mp
      (List.mem_of_find?_eq_some hf), ht, rfl⟩

def first (test : ν → Bool) : Option (κ × ν) :=
  m.toList.find? fun entry => test entry.2

variable {m}

lemma toList_erase_first [DecidableEq κ] {test : ν → Bool} (hf : m.first test = some (key, value)) :
    (m.erase key).toList = m.toList.eraseP fun entry => test entry.2 := by
  obtain ⟨ht, before, after, he, hb⟩ := List.find?_eq_some_iff_append.mp hf
  rw [toList_erase_append he, he, List.eraseP_append_right _ (by simpa using hb), List.eraseP_cons,
    ht, cond_true]

end BTreeMap
