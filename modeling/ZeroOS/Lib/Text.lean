import ZeroOS.Lib.Bytes

/-!
Text the way Rust's standard library treats it.
-/

namespace Text

def digitValue (radix : Nat) (c : Char) : Option Nat :=
  let value :=
    if '0' ≤ c ∧ c ≤ '9' then some (c.toNat - '0'.toNat)
    else if 'a' ≤ c ∧ c ≤ 'z' then some (c.toNat - 'a'.toNat + 10)
    else if 'A' ≤ c ∧ c ≤ 'Z' then some (c.toNat - 'A'.toNat + 10)
    else none
  value.filter (· < radix)

def digitsValue (radix : Nat) (digits : List Char) : Option Nat :=
  digits.foldlM (fun value digit => (digitValue radix digit).map (value * radix + ·)) 0

-- `from_str_radix` of an unsigned type: digits, with or without a plus sign in front, and a
-- value below the limit.
def parseUnsigned (radix limit : Nat) (chars : List Char) : Option Nat :=
  let digits := match chars with
    | '+' :: rest => rest
    | other => other
  if digits = [] then none else (digitsValue radix digits).filter (· < limit)

def parseU64 (chars : List Char) : Option UInt64 :=
  (parseUnsigned 10 18446744073709551616 chars).map UInt64.ofNat

def parseU32 (chars : List Char) : Option UInt32 :=
  (parseUnsigned 10 4294967296 chars).map UInt32.ofNat

def parseU8 (chars : List Char) : Option UInt8 :=
  (parseUnsigned 10 256 chars).map UInt8.ofNat

-- `splitn`: the last piece keeps its separators.
def splitn : Nat → Char → List Char → List (List Char)
  | 0, _, _ => []
  | 1, _, chars => [chars]
  | n + 2, sep, chars =>
    match chars.dropWhile (· ≠ sep) with
    | [] => [chars]
    | _ :: rest => chars.takeWhile (· ≠ sep) :: splitn (n + 1) sep rest

-- A byte that does not start a character.
def isContinuation (byte : UInt8) : Bool := byte &&& 0xC0 = 0x80

def isCharBoundary (bytes : List UInt8) (index : Nat) : Bool :=
  if index = 0 then true
  else
    match bytes[index]? with
    | none => index = bytes.length
    | some byte => !isContinuation byte

-- Lower-case hexadecimal, two digits for a byte.
def hexDigit (n : Nat) : Char := "0123456789abcdef".toList.getD n '0'

def hexByte (byte : UInt8) : List Char :=
  [hexDigit (byte.toNat / 16), hexDigit (byte.toNat % 16)]

def hex (bytes : List UInt8) : List Char := bytes.flatMap hexByte

-- `:08x`.
def hexWord (word : UInt32) : List Char :=
  (List.range 8).reverse.map fun i => hexDigit (word.toNat / 16 ^ i % 16)

end Text
