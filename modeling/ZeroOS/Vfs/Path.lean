import Mathlib.Data.List.Infix

/-!
Paths of the file system service: validation, parents and the user named in a path.
-/

namespace ZeroOS

open String

abbrev UserId := BitVec 128

namespace Path

-- The pieces of `split('/')`.
def components (path : String) : List (List Char) := path.toList.splitOn '/'

def validatePath (path : String) : Except String Unit :=
  let chars := path.toList
  if chars = [] then .error "Path cannot be empty"
  else if chars.head? ≠ some '/' then .error "Path must be absolute (start with '/')"
  else if '\x00' ∈ chars then .error "Path cannot contain null bytes"
  else if path = "/" then .ok ()
  else if chars.getLast? = some '/' then .error "Path cannot have trailing slash (except root)"
  else
    -- The first component that is one of the two decides on the message.
    match (components path).find? (fun component =>
        component = "..".toList ∨ component = ".".toList) with
    | some component =>
      if component = "..".toList then .error "Path cannot contain '..' traversal"
      else .error "Path cannot contain '.' (use normalized path)"
    | none =>
      if "//".toList <:+: chars then .error "Path cannot contain double slashes"
      else .ok ()

-- The position of the last slash.
def rfindSlash (chars : List Char) : Option Nat :=
  (chars.reverse.findIdx? (· = '/')).map (fun i => chars.length - 1 - i)

def parentPath (path : String) : String :=
  if path = "/" then "/"
  else
    match rfindSlash path.toList with
    | some 0 => "/"
    | some pos => String.ofList (path.toList.take pos)
    | none => "/"

-- The last piece of `rsplit('/')`.
def fileName (path : String) : String :=
  String.ofList ((components path).getLast?.getD path.toList)

-- The loop of `build_parent_paths`: the path so far and the paths found.
def extendPaths : List Char → List (List Char) → List String
  | _, [] => []
  | current, component :: rest =>
    let current := current ++ '/' :: component
    String.ofList current :: extendPaths current rest

def buildParentPaths (path : String) : List String :=
  if path = "/" ∨ path = "" then []
  else extendPaths [] ((components path).filter (· ≠ []))

def digitsValue (digits : List Char) : Nat :=
  digits.foldl (fun value digit => value * 10 + (digit.toNat - '0'.toNat)) 0

-- `parse::<u128>`: decimal digits, with or without a plus sign in front.
def parseU128 (chars : List Char) : Option UserId :=
  let digits := match chars with
    | '+' :: rest => rest
    | _ => chars
  if digits = [] ∨ ¬ digits.all Char.isDigit then none
  else if digitsValue digits < 340282366920938463463374607431768211456 then
    some (BitVec.ofNat 128 (digitsValue digits))
  else none

def namesUser (component : List Char) : Bool :=
  component = "users".toList ∨ component = "home".toList ∨ component = "identity".toList

def findUserId : List (List Char) → Option UserId
  | part :: next :: rest =>
    if namesUser part then
      match parseU128 next with
      | some id => some id
      | none => findUserId (next :: rest)
    else findUserId (next :: rest)
  | _ => none

def extractUserIdFromPath (path : String) : Option UserId := findUserId (components path)

example : parentPath "/home/1/notes" = "/home/1" ∧ parentPath "/home" = "/" := by decide

example : extractUserIdFromPath "/home/7/notes" = some 7 := by decide

example : buildParentPaths "/home/1/.zos" = ["/home", "/home/1", "/home/1/.zos"] := by decide

end Path

-- The keys under which storage keeps the inode and the content of a path.

def inodeKey (path : String) : String := "inode:" ++ path

def contentKey (path : String) : String := "content:" ++ path

lemma inodeKey_injective (he : inodeKey first = inodeKey second) : first = second := by
  have hc := congrArg toList he
  rw [inodeKey, inodeKey, toList_append, toList_append, List.append_cancel_left_eq] at hc
  exact toList_injective hc

lemma contentKey_injective (he : contentKey first = contentKey second) : first = second := by
  have hc := congrArg toList he
  rw [contentKey, contentKey, toList_append, toList_append, List.append_cancel_left_eq] at hc
  exact toList_injective hc

lemma inodeKey_ne_contentKey : inodeKey first ≠ contentKey second := by
  intro he
  have hc := congrArg (fun key => key.toList.head?) he
  simp [inodeKey, contentKey] at hc

end ZeroOS
