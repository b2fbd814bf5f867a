import ObjectAccess.Text.Decimal
import ObjectAccess.Text.Hex
import ObjectAccess.Text.Pieces

/-!
# IPv4 addresses in URLs

A host is an address of four octets if its last label is a number.  Up to four
numbers are given, in decimal, in octal after a zero or in hexadecimal after `0x`;
the last one fills all octets that are left.  It is written back as four decimal
numbers.
-/

namespace ObjectAccess.Url

set_option autoImplicit false

open ObjectAccess.Text

/-- The value of digits in a base, if all of them are digits of that base. -/
def numberInBase? (base : Nat) (digits : List Char) : Option Nat :=
  digits.foldlM (fun n c => (Hex.value? c).bind fun d =>
    if d < base then some (n * base + d) else none) 0

/-- The value of one number of an address. -/
def ipv4Number? (text : List Char) : Option Nat :=
  match text with
  | [] => none
  | '0' :: 'x' :: digits => numberInBase? 16 digits
  | '0' :: 'X' :: digits => numberInBase? 16 digits
  | '0' :: digit :: digits => numberInBase? 8 (digit :: digits)
  | _ => numberInBase? 10 text

/-- The labels of a host without the empty one after a final dot. -/
def hostLabels (host : List Char) : List (List Char) :=
  let labels := pieces '.' host
  if labels.getLast? = some [] then labels.dropLast else labels

/-- Whether the last label of a host is a number, so that the host has to be an address. -/
def endsInNumber (host : List Char) : Bool :=
  match (hostLabels host).getLast? with
  | some label => (label ≠ [] && label.all Char.isDigit) || (ipv4Number? label).isSome
  | none => false

/-- The 32-bit value of the numbers of an address: each one is an octet, the last one all that
is left. -/
def ipv4Value? (numbers : List Nat) : Option Nat :=
  match numbers.getLast? with
  | none => none
  | some last =>
    let leading := numbers.dropLast
    let rest := Nat.pow 256 (4 - leading.length)
    if numbers.length ≤ 4 ∧ leading.all (· ≤ 255) ∧ last < rest then
      some (leading.foldl (fun n octet => n * 256 + octet) 0 * rest + last)
    else none

/-- The 32-bit value of an address. -/
def readIpv4? (host : List Char) : Option Nat :=
  ((hostLabels host).mapM ipv4Number?).bind ipv4Value?

/-- An address as four decimal numbers. -/
def ipv4Text (address : Nat) : List Char :=
  join '.' ([address / 0x1000000, address / 0x10000 % 256, address / 0x100 % 256, address % 256].map
    Decimal.digits)

end ObjectAccess.Url
