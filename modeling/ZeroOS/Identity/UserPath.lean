import ZeroOS.Lib.Text
import ZeroOS.Vfs.Canonical

/-!
The paths that the identity layer builds below the home of a user.
-/

namespace ZeroOS

open Path

namespace VfsPath

-- The library reads the component behind `/home/` in hexadecimal.
def extractUserId (path : String) : Option UserId :=
  if "/home/".toList <+: path.toList then
    (((path.toList.drop 6).splitOn '/').head?.bind
      (Text.parseUnsigned 16 340282366920938463463374607431768211456)).map (BitVec.ofNat 128)
  else none

end VfsPath

namespace UserPath

open List Nat Option Segments VfsPath

inductive PathError where
  | Empty
  | NotAbsolute
  | TraversalAttempt
  | NullByte
  | OutsideAllowed
  | ConsecutiveSlashes
  | InvalidCharacters
deriving DecidableEq

def isAllowedPath (path : String) : Bool :=
  "/home/".toList <+: path.toList ∨ "/users/".toList <+: path.toList ∨
    path = "/users/registry.json"

def validatePath (path : String) : Except PathError Unit :=
  let chars := path.toList
  if chars = [] then .error .Empty
  else if '\x00' ∈ chars then .error .NullByte
  else if chars.head? ≠ some '/' then .error .NotAbsolute
  else if "//".toList <:+: chars then .error .ConsecutiveSlashes
  else if ['.', '.'] ∈ Path.components path then .error .TraversalAttempt
  else if ¬ isAllowedPath path then .error .OutsideAllowed
  else .ok ()

def kept (component : List Char) : Bool := component ≠ [] ∧ component ≠ ['.']

def canonicalizePath (path : String) : String :=
  if path = "" then "/" else joinComponents ((Path.components path).filter kept)

def formatUserPath (userId : UserId) (subpath : String) : String :=
  let home := "/home/" ++ toString userId.toNat
  if subpath.toList.head? = some '/' then home ++ subpath else home ++ "/" ++ subpath

def buildUserPath (userId : UserId) (subpath : String) : Except PathError String :=
  if "..".toList <:+: subpath.toList then .error .TraversalAttempt
  else
    let canonical := canonicalizePath (formatUserPath userId subpath)
    (validatePath canonical).map fun _ => canonical

def home : List Char := "home".toList

variable (userId : UserId)

def digits : List Char := Nat.toDigits 10 userId.toNat

lemma isDigit_of_mem_digits (hm : c ∈ digits userId) : c.isDigit :=
  isDigit_of_mem_toDigits (by decide) (by decide) hm

lemma not_mem_digits (hd : ¬ c.isDigit) : c ∉ digits userId :=
  fun hm => hd (isDigit_of_mem_digits userId hm)

lemma digits_ne_nil : digits userId ≠ [] := length_pos_iff.mp length_toDigits_pos

lemma kept_digits : kept (digits userId) := by
  rw [kept, decide_eq_true_iff]
  refine ⟨digits_ne_nil userId, fun h => ?_⟩
  have hd : '.' ∉ digits userId := not_mem_digits userId (by decide)
  rw [h] at hd
  exact hd mem_cons_self

lemma toList_formatUserPath (subpath : String) : ∃ rest, (formatUserPath userId subpath).toList =
    "/home/".toList ++ (digits userId ++ '/' :: rest) := by
  have hd : (toString userId.toNat).toList = digits userId := toList_repr
  simp only [formatUserPath]
  split
  case isTrue hh =>
    obtain ⟨rest, hr⟩ := head?_eq_some_iff.mp hh
    refine ⟨rest, ?_⟩
    rw [String.toList_append, String.toList_append, hd, hr, append_assoc]
  case isFalse =>
    refine ⟨subpath.toList, ?_⟩
    rw [String.toList_append, String.toList_append, String.toList_append, hd,
      append_assoc, append_assoc]
    rfl

lemma canonicalizePath_home (hp : path.toList = "/home/".toList ++ (digits userId ++ '/' :: rest)) :
    canonicalizePath path =
      joinComponents (home :: digits userId :: (rest.splitOn '/').filter kept) := by
  have hf : Free '/' (home :: digits userId :: rest.splitOn '/') := by
    intro component hm
    rcases mem_cons.mp hm with rfl | hm
    · decide
    rcases mem_cons.mp hm with rfl | hm
    · exact not_mem_digits userId (by decide)
    · exact free_splitOn _ _ component hm
  have hs : path.toList = spell '/' (home :: digits userId :: rest.splitOn '/') := by
    have hc : spell '/' (home :: digits userId :: rest.splitOn '/') =
        "/home/".toList ++ (digits userId ++ spell '/' (rest.splitOn '/')) := rfl
    rw [hc, spell_splitOn, hp]
  have he : path ≠ "" := by
    rintro rfl
    cases hp
  rw [canonicalizePath, if_neg he, components, hs, splitOn_spell hf,
    filter_cons_of_neg (by decide), filter_cons_of_pos (by decide),
    filter_cons_of_pos (kept_digits userId)]

lemma plain_of_validatePath (hf : Free '/' parts) (hk : ∀ part ∈ parts, kept part)
    (hne : parts ≠ []) (h : validatePath (joinComponents parts) = .ok ()) :
    ∀ part ∈ parts, Plain part := by
  have hc : (joinComponents parts).toList = spell '/' parts := by
    rw [toList_joinComponents, if_neg hne]
  simp only [validatePath, hc, components, splitOn_spell hf] at h
  split_ifs at h with he hn hh ho hd
  intro part hm
  have hp := hk part hm
  rw [kept, decide_eq_true_iff] at hp
  refine ⟨hp.1, hp.2, ?_, hf part hm, fun hz => hn ?_⟩
  · rintro rfl
    exact hd (mem_cons_of_mem _ hm)
  · exact mem_flatMap.mpr ⟨part, hm, mem_cons_of_mem _ hz⟩

variable {userId : UserId}

-- A path that was built is the home of the user and components below it.
lemma exists_parts (h : buildUserPath userId subpath = .ok path) :
    ∃ rest, (∀ part ∈ home :: digits userId :: rest, Plain part) ∧
      path = joinComponents (home :: digits userId :: rest) := by
  obtain ⟨more, hm⟩ := toList_formatUserPath userId subpath
  rw [buildUserPath, canonicalizePath_home userId hm] at h
  split at h
  · cases h
  cases hv : validatePath
      (joinComponents (home :: digits userId :: (more.splitOn '/').filter kept)) with
  | error e =>
    simp only [hv] at h
    cases h
  | ok _ =>
    simp only [hv] at h
    cases h
    refine ⟨_, plain_of_validatePath ?_ ?_ (cons_ne_nil _ _) hv, rfl⟩
    · simpa [Free, home, not_mem_digits] using fun part he _ => free_splitOn '/' more part he
    · simpa [kept_digits] using by decide

lemma digitsValue_digits : digitsValue (digits userId) = userId.toNat := by
  have hv : ofDigitChars 10 (digits userId) 0 = userId.toNat := ofDigitChars_ten_toDigits
  simpa only [digitsValue, ofDigitChars, mul_comm] using hv

lemma digits_ne_plus : digits userId ≠ '+' :: rest := by
  intro h
  have hp : '+' ∉ digits userId := not_mem_digits userId (by decide)
  rw [h] at hp
  exact hp mem_cons_self

lemma parseU128_digits : parseU128 (digits userId) = some userId := by
  simp only [parseU128]
  split
  case h_1 rest he => exact absurd he digits_ne_plus
  case h_2 =>
    have ha : (digits userId).all Char.isDigit :=
      all_eq_true.mpr fun c hm => isDigit_of_mem_digits userId hm
    rw [if_neg (by simp [digits_ne_nil, ha]), digitsValue_digits, if_pos userId.isLt,
      BitVec.ofNat_toNat, BitVec.setWidth_eq]

-- Decimal digits read in hexadecimal give a number that is too large from two digits on.
lemma digitsValue_hex (n : Nat) :
    ∃ value, Text.digitsValue 16 (toDigits 10 n) = some value ∧ n ≤ value ∧
      (value = n ↔ n < 10) := by
  have hd : ∀ n < 10, Text.digitValue 16 n.digitChar = some n := by decide
  induction n using Nat.strongRecOn with
  | ind n ih =>
    by_cases hs : n < 10
    · refine ⟨n, ?_, le_refl n, iff_of_true rfl hs⟩
      rw [toDigits_of_lt_base hs, Text.digitsValue]
      simp [hd n hs]
    · obtain ⟨value, hv, hl, -⟩ := ih (n / 10) (by omega)
      refine ⟨value * 16 + n % 10, ?_, by omega, by omega⟩
      rw [Text.digitsValue] at hv
      rw [toDigits_of_base_le (by decide) (by omega), Text.digitsValue, foldlM_append]
      simp [hv, hd (n % 10) (mod_lt _ (by decide))]

variable {rest : List (List Char)} (hpl : ∀ part ∈ home :: digits userId :: rest, Plain part)

include hpl

lemma components_home : components (joinComponents (home :: digits userId :: rest)) =
    [] :: home :: digits userId :: rest := by
  rw [components_joinComponents hpl, if_neg (cons_ne_nil _ _)]

lemma extractUserIdFromPath_home : extractUserIdFromPath
    (joinComponents (home :: digits userId :: rest)) = some userId := by
  rw [extractUserIdFromPath, components_home hpl, findUserId, if_neg (by decide),
    findUserId, if_pos (by decide), parseU128_digits]

lemma extractUserId_home : extractUserId (joinComponents (home :: digits userId :: rest)) =
    some userId ↔ userId.toNat < 10 := by
  have hf : Free '/' (digits userId :: rest) :=
    fun part hm => (hpl part (mem_cons_of_mem _ hm)).slash
  have hc : (joinComponents (home :: digits userId :: rest)).toList =
      "/home/".toList ++ (digits userId ++ spell '/' rest) := by
    rw [toList_joinComponents, if_neg (cons_ne_nil _ _)]
    rfl
  have hd : ((joinComponents (home :: digits userId :: rest)).toList.drop 6).splitOn '/' =
      digits userId :: rest := by
    rw [hc, ← splitOn_append_spell hf]
    rfl
  obtain ⟨value, hv, hle, hi⟩ := digitsValue_hex userId.toNat
  rw [extractUserId, if_pos ⟨_, hc.symm⟩, hd, ← hi, head?_cons, bind_some]
  simp only [Text.parseUnsigned]
  split
  case h_1 rest he => exact absurd he digits_ne_plus
  case h_2 =>
    rw [if_neg (digits_ne_nil userId), digits, hv, filter_some]
    split
    case isTrue hl =>
      rw [decide_eq_true_iff] at hl
      rw [map_some, some.injEq, ← BitVec.toNat_inj, BitVec.toNat_ofNat, mod_eq_of_lt hl]
    case isFalse hl =>
      rw [decide_eq_true_iff] at hl
      have hid := userId.isLt
      refine iff_of_false (by simp) fun he => hl ?_
      rw [he]
      exact hid

omit hpl

-- What is built for a user is canonical, lies below their home and is theirs to the service.
theorem user_path_confined :
    (∀ userId subpath path, buildUserPath userId subpath = .ok path →
      Path.validatePath path = .ok () ∧ canonicalizePath path = path ∧
      isUnder path ("/home/" ++ toString userId.toNat) ∧
      Path.extractUserIdFromPath path = some userId) ∧
    ∀ userId other subpath subpath' path, buildUserPath userId subpath = .ok path →
      buildUserPath other subpath' = .ok path → userId = other := by
  have ho : ∀ userId subpath path, buildUserPath userId subpath = .ok path →
      extractUserIdFromPath path = some userId := by
    intro userId subpath path h
    obtain ⟨rest, hpl, rfl⟩ := exists_parts h
    exact extractUserIdFromPath_home hpl
  refine ⟨fun userId subpath path h => ?_, fun userId other subpath subpath' path h h' => ?_⟩
  · have hp := ho userId subpath path h
    obtain ⟨rest, hpl, rfl⟩ := exists_parts h
    refine ⟨validatePath_of_plain hpl, ?_, ?_, hp⟩
    · have he : joinComponents (home :: digits userId :: rest) ≠ "" := by
        intro he
        have hc := components_home hpl
        rw [he] at hc
        cases hc
      rw [canonicalizePath, if_neg he, components_home hpl,
        filter_cons_of_neg (by decide), filter_eq_self.mpr]
      intro part hm
      rw [kept, decide_eq_true_iff]
      exact ⟨(hpl part hm).ne_nil, (hpl part hm).ne_dot⟩
    · have hh : "/home/" ++ toString userId.toNat = joinComponents [home, digits userId] := by
        apply String.toList_injective
        have hd : (toString userId.toNat).toList = digits userId := toList_repr
        rw [toList_joinComponents, String.toList_append, hd]
        simp [spell, home]
      rw [hh, isUnder_iff hpl]
      · exact ⟨rest, rfl⟩
      · exact fun part hm => hpl part (mem_append_left rest hm)
  · exact some.inj ((ho _ _ _ h).symm.trans (ho _ _ _ h'))

theorem user_path_confined_notes : ∃ path, buildUserPath 7 "notes" = .ok path ∧
    Path.extractUserIdFromPath path = some 7 := by
  have hb : buildUserPath 7 "notes" = .ok "/home/7/notes" := by decide
  exact ⟨_, hb, (user_path_confined.1 _ _ _ hb).2.2.2⟩

-- The library and the service name the same user only where decimal and hexadecimal agree.
theorem extractors_agree_iff (h : buildUserPath userId subpath = .ok path) :
    (extractUserId path = some userId ∧ Path.extractUserIdFromPath path = some userId) ↔
      userId.toNat < 10 := by
  obtain ⟨rest, hpl, rfl⟩ := exists_parts h
  rw [extractUserId_home hpl, extractUserIdFromPath_home hpl, and_iff_left rfl]

theorem extractors_agree_iff_notes : ∃ path, buildUserPath 7 "notes" = .ok path ∧
    extractUserId path = some 7 := by
  have hb : buildUserPath 7 "notes" = .ok "/home/7/notes" := by decide
  exact ⟨_, hb, ((extractors_agree_iff hb).mpr (by decide)).1⟩

-- The home of user 16 is that of user 22 to the library.
theorem home_of_other_user : ∃ path, buildUserPath 16 "notes" = .ok path ∧
    extractUserId path = some 22 ∧ Path.extractUserIdFromPath path = some 16 :=
  ⟨"/home/16/notes", by decide, by decide, by decide⟩

end UserPath

end ZeroOS
