/-!
# Decimal numbers in text

Numbers are written without leading zeros, or with zeros up to a fixed width.  A
number that stands alone is read with an optional sign and has to fit its
machine width; there are no spaces, no separators and no empty digit runs.
-/

namespace ObjectAccess.Decimal

set_option autoImplicit false

/-- The value of an ASCII digit. -/
def digitValue (c : Char) : Nat := c.toNat - '0'.toNat

/-- The value of a run of digits. -/
def value (digits : List Char) : Nat :=
  digits.foldl (fun n c => n * 10 + digitValue c) 0

/-- The digits of a number. -/
def digits (n : Nat) : List Char := Nat.toDigits 10 n

/-- The digits of a number with zeros in front up to a width. -/
def padded (width n : Nat) : List Char :=
  List.replicate (width - (digits n).length) '0' ++ digits n

/-- The text of a signed number. -/
def ofInt (n : Int) : List Char :=
  if n < 0 then '-' :: digits n.natAbs else digits n.natAbs

/-- The value of a text that holds digits and nothing else, at least one. -/
def readDigits? (text : List Char) : Option Nat :=
  if text ≠ [] ∧ text.all Char.isDigit then some (value text) else none

/-- A natural number below `limit`, with an optional plus sign. -/
def readNat? (limit : Nat) (text : List Char) : Option Nat :=
  let body := match text with
    | '+' :: rest => rest
    | _ => text
  (readDigits? body).filter (· < limit)

/-- A 64-bit number without sign bit. -/
def readWord? (text : List Char) : Option Nat := readNat? 0x10000000000000000 text

/-- A 64-bit number with sign, plus or minus in front allowed. -/
def readSigned? (text : List Char) : Option Int :=
  match text with
  | '-' :: rest => ((readDigits? rest).filter (· ≤ 0x8000000000000000)).map fun n => -(n : Int)
  | _ => (readNat? 0x8000000000000000 text).map fun n => (n : Int)

end ObjectAccess.Decimal
