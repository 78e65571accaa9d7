import Mathlib.Data.List.Nodup
import ZeroOS.Lib.Segments
import ZeroOS.Vfs.Types

/-!
Paths of the file system library, and the paths that the service accepts.
-/

namespace ZeroOS.VfsPath

open List Segments Path
open String (ofList toList_ofList toList_append toList_injective)

def validatePath (path : String) : Except VfsError Unit :=
  let chars := path.toList
  if chars = [] then .error (.InvalidPath "Empty path")
  else if chars.head? ≠ some '/' then
    .error (.InvalidPath "Path must be absolute (start with /)")
  else if '\x00' ∈ chars then .error (.InvalidPath "Path contains null character")
  else .ok ()

-- One turn of the loop of `normalize_path`.
def resolve (components : List (List Char)) (component : List Char) :
    Except VfsError (List (List Char)) :=
  if component = [] ∨ component = ['.'] then .ok components
  else if component = ['.', '.'] then
    if components = [] then .error (.InvalidPath "Path escapes root directory")
    else .ok components.dropLast
  else .ok (components ++ [component])

def joinComponents (components : List (List Char)) : String :=
  if components = [] then "/" else String.ofList (spell '/' components)

def normalizePath (path : String) : Except VfsError String := do
  validatePath path
  let components ← (Path.components path).foldlM resolve []
  return joinComponents components

def filename (path : String) : String :=
  if path = "/" then ""
  else
    match Path.rfindSlash path.toList with
    | some pos => String.ofList (path.toList.drop (pos + 1))
    | none => path

def joinPath (base name : String) : String :=
  if base = "/" then "/" ++ name else base ++ "/" ++ name

-- The byte behind a prefix is a slash if and only if the character there is one.
def isUnder (path base : String) : Bool :=
  base = "/" ∨ (base.toList <+: path.toList ∧
    (path.length = base.length ∨ path.toList[base.length]? = some '/'))

-- The component list of a path.
def names (path : String) : List (List Char) := (Path.components path).filter (· ≠ [])

structure Plain (component : List Char) : Prop where
  ne_nil : component ≠ []
  ne_dot : component ≠ ['.']
  ne_dots : component ≠ ['.', '.']
  slash : '/' ∉ component
  null : '\x00' ∉ component

def Canonical (path : String) : Prop :=
  ∃ parts, (∀ part ∈ parts, Plain part) ∧ path = joinComponents parts

variable {parts before components base : List (List Char)}

lemma toList_joinComponents :
    (joinComponents parts).toList = if parts = [] then ['/'] else spell '/' parts := by
  rw [joinComponents]
  split
  · rfl
  · exact toList_ofList

section

variable (hpl : ∀ part ∈ parts, Plain part)

include hpl

lemma free_of_plain : Free '/' parts := fun part hm => (hpl part hm).slash

lemma components_joinComponents :
    Path.components (joinComponents parts) = if parts = [] then [[], []] else [] :: parts := by
  rw [Path.components, toList_joinComponents]
  split
  · decide
  · exact splitOn_spell (free_of_plain hpl)

lemma names_joinComponents : names (joinComponents parts) = parts := by
  rw [names, components_joinComponents hpl]
  split
  case isTrue hn =>
    rw [hn]
    decide
  case isFalse =>
    simpa using fun part hm => (hpl part hm).ne_nil

lemma joinComponents_eq_root_iff : joinComponents parts = "/" ↔ parts = [] := by
  constructor
  · intro hr
    have hn := names_joinComponents hpl
    rw [hr] at hn
    exact hn.symm.trans (by decide)
  · rintro rfl
    rfl

lemma head_spell (hn : parts ≠ []) : (spell '/' parts).head? = some '/' := by
  obtain ⟨part, rest, rfl⟩ := exists_cons_of_ne_nil hn
  rfl

lemma validatePath_of_plain : Path.validatePath (joinComponents parts) = .ok () := by
  by_cases hn : parts = []
  · rw [hn]
    decide
  have hc : (joinComponents parts).toList = spell '/' parts := by
    rw [toList_joinComponents, if_neg hn]
  have hf := free_of_plain hpl
  have hs : [] ∉ parts := fun hm => (hpl [] hm).ne_nil rfl
  have hh := head_spell hpl hn
  have he : spell '/' parts ≠ [] := by
    intro h
    rw [h] at hh
    cases hh
  have hu : '\x00' ∉ spell '/' parts := by
    intro hm
    obtain ⟨part, hp, hm⟩ := mem_flatMap.mp hm
    rcases mem_cons.mp hm with h | hm
    · exact absurd h (by decide)
    · exact (hpl part hp).null hm
  have hl : (spell '/' parts).getLast? ≠ some '/' := by
    intro h
    obtain ⟨before, h⟩ := getLast?_eq_some_iff.mp h
    have hr : Free '/' [] := by simp [Free]
    exact hs (nil_mem_of_spell hf hr h)
  have hd : ¬ "//".toList <:+: spell '/' parts := by
    rintro ⟨before, behind, h⟩
    rw [append_assoc] at h
    have hsp : spell '/' parts = before ++ '/' :: spell '/' (behind.splitOn '/') := by
      rw [spell_splitOn]
      exact h.symm
    exact hs (nil_mem_of_spell hf (free_splitOn _ _) hsp)
  have hi : (Path.components (joinComponents parts)).find? (fun component =>
      component = "..".toList ∨ component = ".".toList) = none := by
    rw [components_joinComponents hpl, if_neg hn, find?_eq_none]
    intro part hm
    rcases mem_cons.mp hm with rfl | hm
    · decide
    · simpa using ⟨(hpl part hm).ne_dots, (hpl part hm).ne_dot⟩
  simp only [Path.validatePath]
  rw [hi, hc, if_neg he, if_neg (not_not.mpr hh), if_neg hu,
    if_neg ((joinComponents_eq_root_iff hpl).not.mpr hn), if_neg hl]
  exact if_neg hd

end

lemma canonical_of_validatePath (h : Path.validatePath path = .ok ()) : Canonical path := by
  simp only [Path.validatePath] at h
  split at h
  · cases h
  split at h
  · cases h
  case isFalse hne hh =>
  split at h
  · cases h
  case isFalse hn =>
  split at h
  case isTrue hr => exact ⟨[], by simp, hr⟩
  case isFalse hr =>
  split at h
  · cases h
  case isFalse hl =>
  split at h
  · split at h <;> cases h
  case h_2 hf =>
  split at h
  · cases h
  case isFalse hb =>
  obtain ⟨rest, he⟩ := head?_eq_some_iff.mp (not_not.mp hh)
  have hp : spell '/' (rest.splitOn '/') = path.toList := by
    rw [spell_splitOn, he]
  have ha : Path.components path = [] :: rest.splitOn '/' := by
    rw [Path.components, ← hp, splitOn_spell (free_splitOn _ _)]
  rw [ha, find?_eq_none] at hf
  refine ⟨rest.splitOn '/', fun part hm => ?_, ?_⟩
  · have hd := hf part (mem_cons_of_mem _ hm)
    simp only [decide_eq_true_eq, not_or] at hd
    refine ⟨?_, hd.2, hd.1, free_splitOn _ _ part hm, fun hz => ?_⟩
    · -- An empty component stands at the end or in front of another slash.
      rintro rfl
      obtain ⟨before, behind, hs⟩ := append_of_mem hm
      rw [hs, spell_append] at hp
      cases behind with
      | nil =>
        refine hl ?_
        rw [← hp]
        exact getLast?_concat
      | cons next behind =>
        refine hb ⟨spell '/' before, next ++ spell '/' behind, ?_⟩
        rw [← hp, append_assoc]
        rfl
    · refine hn ?_
      rw [← hp]
      exact mem_flatMap.mpr ⟨part, hm, mem_cons_of_mem _ hz⟩
  · rw [joinComponents, if_neg (splitOn_ne_nil _ _), hp, String.ofList_toList]

lemma validatePath_ok_iff : Path.validatePath path = .ok () ↔ Canonical path := by
  constructor
  · exact canonical_of_validatePath
  · rintro ⟨parts, hpl, rfl⟩
    exact validatePath_of_plain hpl

lemma foldlM_resolve (before : List (List Char)) (hpl : ∀ part ∈ parts, Plain part) :
    parts.foldlM resolve before = .ok (before ++ parts) := by
  induction parts generalizing before with
  | nil => exact congrArg Except.ok (append_nil before).symm
  | cons part rest ih =>
    have hp := hpl part mem_cons_self
    have hr : resolve before part = .ok (before ++ [part]) := by
      rw [resolve, if_neg (not_or.mpr ⟨hp.ne_nil, hp.ne_dot⟩), if_neg hp.ne_dots]
    rw [foldlM_cons, hr]
    change rest.foldlM resolve (before ++ [part]) = _
    rw [ih _ (fun other hm => hpl other (mem_cons_of_mem part hm)), append_assoc, singleton_append]

lemma normalizePath_of_canonical (h : Canonical path) : normalizePath path = .ok path := by
  have ha := validatePath_ok_iff.mpr h
  have hv : validatePath path = .ok () := by
    simp only [Path.validatePath] at ha
    simp only [validatePath]
    split_ifs at ha ⊢
    all_goals rfl
  obtain ⟨parts, hpl, rfl⟩ := h
  have hf : (components (joinComponents parts)).foldlM resolve [] = .ok parts := by
    rw [components_joinComponents hpl]
    split
    case isTrue hn =>
      rw [hn]
      rfl
    case isFalse => exact foldlM_resolve [] hpl
  rw [normalizePath, hv, hf]
  rfl

lemma plain_of_resolve (hb : ∀ part ∈ before, Plain part) (hl : '/' ∉ component)
    (hn : '\x00' ∉ component) (h : resolve before component = .ok parts) :
    ∀ part ∈ parts, Plain part := by
  rw [resolve] at h
  split_ifs at h with hs hd hi
  · cases h
    exact hb
  · cases h
    exact fun part hm => hb part (mem_of_mem_dropLast hm)
  · cases h
    rw [not_or] at hs
    intro part hm
    rcases mem_append.mp hm with hm | hm
    · exact hb part hm
    · rw [mem_singleton.mp hm]
      exact ⟨hs.1, hs.2, hd, hl, hn⟩

lemma plain_of_foldlM (hb : ∀ part ∈ before, Plain part)
    (hs : ∀ component ∈ components, '/' ∉ component)
    (hn : ∀ component ∈ components, '\x00' ∉ component)
    (h : components.foldlM resolve before = .ok parts) : ∀ part ∈ parts, Plain part := by
  induction components generalizing before with
  | nil =>
    cases h
    exact hb
  | cons component rest ih =>
    rw [foldlM_cons] at h
    cases hr : resolve before component with
    | error e =>
      rw [hr] at h
      cases h
    | ok next =>
      rw [hr] at h
      rw [forall_mem_cons] at hs hn
      exact ih (plain_of_resolve hb hs.1 hn.1 hr) hs.2 hn.2 h

lemma canonical_of_normalizePath (h : normalizePath path = .ok normal) : Canonical normal := by
  rw [normalizePath] at h
  cases hv : validatePath path with
  | error e =>
    rw [hv] at h
    cases h
  | ok _ =>
    rw [hv] at h
    cases hf : (components path).foldlM resolve [] with
    | error e =>
      rw [hf] at h
      cases h
    | ok parts =>
      rw [hf] at h
      cases h
      simp only [validatePath] at hv
      split_ifs at hv with he hh hn
      refine ⟨parts, plain_of_foldlM (by simp) (free_splitOn _ _) ?_ hf, rfl⟩
      intro component hm hz
      have hc : '\x00' ∈ '/' :: path.toList := by
        rw [← spell_splitOn]
        exact mem_flatMap.mpr ⟨component, hm, mem_cons_of_mem _ hz⟩
      rcases mem_cons.mp hc with h | hc
      · exact absurd h (by decide)
      · exact hn hc

lemma toList_concat :
    (joinComponents (parts ++ [last])).toList = spell '/' parts ++ '/' :: last := by
  rw [toList_joinComponents, if_neg (by simp), spell_concat]

section

variable {last : List Char} (hpl : ∀ part ∈ parts ++ [last], Plain part)

include hpl

lemma plain_init : ∀ part ∈ parts, Plain part := fun part hm => hpl part (mem_append_left _ hm)

lemma plain_last : Plain last := hpl last (mem_append_right _ mem_cons_self)

lemma ne_root_concat : joinComponents (parts ++ [last]) ≠ "/" := by
  rw [Ne, joinComponents_eq_root_iff hpl]
  simp

lemma rfindSlash_concat :
    rfindSlash (joinComponents (parts ++ [last])).toList = some (spell '/' parts).length := by
  have hf := findIdx_reverse_spell '/' parts (plain_last hpl).slash
  rw [spell_concat] at hf
  rw [rfindSlash, toList_concat, hf]
  simp

lemma parentPath_concat : parentPath (joinComponents (parts ++ [last])) = joinComponents parts := by
  rw [parentPath, if_neg (ne_root_concat hpl), rfindSlash_concat hpl, toList_concat, joinComponents]
  cases parts with
  | nil => rfl
  | cons part rest =>
    rw [if_neg (cons_ne_nil _ _)]
    change ofList (take (spell '/' (part :: rest)).length _) = _
    rw [take_left]

lemma filename_concat : filename (joinComponents (parts ++ [last])) = ofList last := by
  rw [filename, if_neg (ne_root_concat hpl), rfindSlash_concat hpl, toList_concat]
  change ofList (drop _ _) = _
  rw [← drop_drop, drop_left]
  rfl

lemma joinPath_concat :
    joinPath (joinComponents parts) (ofList last) = joinComponents (parts ++ [last]) := by
  have hr := joinComponents_eq_root_iff (plain_init hpl)
  have hl : (ofList last).toList = last := toList_ofList
  apply toList_injective
  rw [toList_concat, joinPath]
  by_cases hn : parts = []
  · rw [if_pos (hr.mpr hn), hn, toList_append, hl]
    rfl
  · rw [if_neg (hr.not.mpr hn), toList_append, toList_append,
      toList_joinComponents, if_neg hn, hl, append_assoc]
    rfl

end

lemma behind_iff :
    ((chars ++ rest).length = chars.length ∨ (chars ++ rest)[chars.length]? = some '/') ↔
      (rest = [] ∨ rest.head? = some '/') := by
  rw [length_append, getElem?_append_right (Nat.le_refl _), Nat.sub_self,
    head?_eq_getElem?, Nat.add_eq_left, length_eq_zero_iff]

lemma isUnder_iff (hp : ∀ part ∈ parts, Plain part) (hb : ∀ part ∈ base, Plain part) :
    isUnder (joinComponents parts) (joinComponents base) ↔ base <+: parts := by
  rw [isUnder, decide_eq_true_iff, joinComponents_eq_root_iff hb]
  by_cases hn : base = []
  · simp [hn]
  rw [or_iff_right hn, ← String.length_toList, ← String.length_toList,
    toList_joinComponents, if_neg hn]
  constructor
  · rintro ⟨⟨rest, hr⟩, he⟩
    rw [← hr, behind_iff] at he
    rw [toList_joinComponents] at hr
    split at hr
    · -- The root itself is one empty component, which a base does not have.
      have hem : Free '/' [[]] := by simp [Free]
      have hpr := isPrefix_of_spell_append (free_of_plain hb) hem hr he
      obtain ⟨part, hm⟩ := exists_mem_of_ne_nil base hn
      exact absurd (mem_singleton.mp (hpr.subset hm)) (hb part hm).ne_nil
    · exact isPrefix_of_spell_append (free_of_plain hb) (free_of_plain hp) hr he
  · rintro ⟨rest, rfl⟩
    rw [toList_joinComponents, if_neg (by simp [hn]), spell_append]
    refine ⟨prefix_append _ _, behind_iff.mpr ?_⟩
    cases rest with
    | nil => exact .inl rfl
    | cons part rest => exact .inr rfl

-- A path other than the root is its parent and its last component.
lemma Canonical.exists_concat (h : Canonical path) (hr : path ≠ "/") :
    ∃ parts last, (∀ part ∈ parts ++ [last], Plain part) ∧
      path = joinComponents (parts ++ [last]) := by
  obtain ⟨parts, hpl, rfl⟩ := h
  rcases eq_nil_or_concat' parts with rfl | ⟨parts, last, rfl⟩
  · exact absurd rfl hr
  · exact ⟨parts, last, hpl, rfl⟩

-- Accepted paths are the normal forms; they are built from their components and compared by
-- them.
theorem path_canonicity :
    (∀ path normal, normalizePath path = .ok normal → normalizePath normal = .ok normal) ∧
    (∀ path, normalizePath path = .ok path ↔ Path.validatePath path = .ok ()) ∧
    ∀ path, Path.validatePath path = .ok () →
      (path ≠ "/" → joinPath (Path.parentPath path) (filename path) = path ∧
        Path.validatePath (Path.parentPath path) = .ok () ∧
        (filename path).toList ∈ names path ∧ filename path ≠ "" ∧
        '/' ∉ (filename path).toList) ∧
      ∀ base, Path.validatePath base = .ok () →
        (isUnder path base ↔ names base <+: names path) := by
  refine ⟨fun path normal h => normalizePath_of_canonical (canonical_of_normalizePath h),
    fun path => ⟨fun h => validatePath_ok_iff.mpr (canonical_of_normalizePath h),
      fun h => normalizePath_of_canonical (validatePath_ok_iff.mp h)⟩, ?_⟩
  intro path hv
  have hc := validatePath_ok_iff.mp hv
  refine ⟨fun hr => ?_, fun base hb => ?_⟩
  · obtain ⟨parts, last, hpl, rfl⟩ := hc.exists_concat hr
    have hl := plain_last hpl
    have hh : (ofList last).toList = last := toList_ofList
    rw [parentPath_concat hpl, filename_concat hpl, joinPath_concat hpl,
      names_joinComponents hpl, hh]
    refine ⟨rfl, validatePath_of_plain (plain_init hpl),
      mem_append_right _ mem_cons_self, fun h => hl.ne_nil ?_, hl.slash⟩
    rw [← hh, h]
    rfl
  · obtain ⟨parts, hpl, rfl⟩ := hc
    obtain ⟨parts', hp', rfl⟩ := validatePath_ok_iff.mp hb
    rw [isUnder_iff hpl hp', names_joinComponents hpl, names_joinComponents hp']

theorem path_canonicity_home : Path.validatePath "/home/7" = .ok () ∧
    joinPath (Path.parentPath "/home/7") (filename "/home/7") = "/home/7" ∧
    (isUnder "/home/7" "/home" ↔ names "/home" <+: names "/home/7") :=
  have hv : Path.validatePath "/home/7" = .ok () := by decide
  have hh := path_canonicity.2.2 "/home/7" hv
  ⟨hv, (hh.1 (by decide)).1, hh.2 "/home" (by decide)⟩

lemma extendPaths_eq (before : List (List Char)) :
    extendPaths (spell '/' before) rest =
      (range rest.length).map fun i => joinComponents (before ++ rest.take (i + 1)) := by
  induction rest generalizing before with
  | nil => rfl
  | cons part rest ih =>
    have hj : joinComponents (before ++ [part]) = ofList (spell '/' before ++ '/' :: part) := by
      rw [joinComponents, if_neg (by simp), spell_concat]
    rw [extendPaths, ← spell_concat, ih, length_cons, range_succ_eq_map,
      map_cons, map_map, spell_concat, ← hj]
    simp [Function.comp_def]

lemma buildParentPaths_eq (hpl : ∀ part ∈ parts, Plain part) (hn : parts ≠ []) :
    buildParentPaths (joinComponents parts) =
      (range parts.length).map fun i => joinComponents (parts.take (i + 1)) := by
  have he : joinComponents parts ≠ "" := by
    intro h
    have hc := congrArg String.toList h
    rw [toList_joinComponents, if_neg hn] at hc
    have hh := head_spell hpl hn
    rw [hc] at hh
    cases hh
  rw [buildParentPaths, if_neg (not_or.mpr ⟨(joinComponents_eq_root_iff hpl).not.mpr hn, he⟩)]
  have ha := names_joinComponents hpl
  rw [names] at ha
  rw [ha]
  exact extendPaths_eq []

-- The paths from the root down to a path, each of them the parent of the next.
theorem parent_chain (hvalid : Path.validatePath path = .ok ()) (hroot : path ≠ "/") :
    (Path.buildParentPaths path).getLast? = some path ∧
    (Path.buildParentPaths path).head?.map Path.parentPath = some "/" ∧
    (Path.buildParentPaths path).IsChain (fun parent next => Path.parentPath next = parent) ∧
    (∀ parent ∈ Path.buildParentPaths path, Path.validatePath parent = .ok ()) ∧
    (Path.buildParentPaths path).Nodup ∧
    (Path.buildParentPaths path).length = (names path).length := by
  obtain ⟨parts, hpl, rfl⟩ := validatePath_ok_iff.mp hvalid
  have hn := (joinComponents_eq_root_iff hpl).not.mp hroot
  have ht : ∀ i, ∀ part ∈ parts.take i, Plain part :=
    fun i part hm => hpl part (mem_of_mem_take hm)
  have hs : ∀ i < parts.length,
      Path.parentPath (joinComponents (parts.take (i + 1))) = joinComponents (parts.take i) := by
    intro i hi
    have hp := ht (i + 1)
    rw [take_succ_eq_append_getElem hi] at hp ⊢
    exact parentPath_concat hp
  have hl := length_pos_iff.mpr hn
  rw [buildParentPaths_eq hpl hn, names_joinComponents hpl]
  refine ⟨?_, ?_, ?_, ?_, ?_, by simp⟩
  · rw [getLast?_map, getLast?_range, if_neg (by omega), Option.map_some,
      Nat.sub_add_cancel hl, take_length]
  · rw [head?_map, head?_range, if_neg (by omega)]
    exact congrArg some (hs 0 hl)
  · rw [isChain_iff_getElem]
    intro i hi
    simp only [length_map, length_range] at hi
    simp only [getElem_map, getElem_range]
    exact hs (i + 1) hi
  · intro parent hm
    obtain ⟨i, -, rfl⟩ := mem_map.mp hm
    exact validatePath_of_plain (ht (i + 1))
  · refine List.Nodup.map_on ?_ nodup_range
    intro i hi j hj he
    have ha := congrArg (fun path => (names path).length) he
    simp only [names_joinComponents (ht _), length_take] at ha
    rw [mem_range] at hi hj
    omega

theorem parent_chain_notes :
    Path.validatePath "/home/7/notes" = .ok () ∧
    (Path.buildParentPaths "/home/7/notes").getLast? = some "/home/7/notes" :=
  have hv : Path.validatePath "/home/7/notes" = .ok () := by decide
  ⟨hv, (parent_chain hv (by decide)).1⟩

end ZeroOS.VfsPath
