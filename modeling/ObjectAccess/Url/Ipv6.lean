import ObjectAccess.Text.Decimal
import ObjectAccess.Text.Hex
import ObjectAccess.Text.Pieces

/-!
# IPv6 addresses

Eight groups of 16 bits in hexadecimal.  One run of zeros may be left out between
two colons, and the last two groups may be given as an IPv4 address.  An address is
written with the longest run of at least two zero groups left out, the first one if
there are several.
-/

namespace ObjectAccess.Url

set_option autoImplicit false

open ObjectAccess.Text

/-- The value of one group. -/
def ipv6Group? (text : List Char) : Option Nat :=
  if text ≠ [] ∧ text.length ≤ 4 then
    text.foldlM (fun n c => (Hex.value? c).map fun d => n * 16 + d) 0
  else none

/-- An octet of an IPv4 address inside an IPv6 address: no leading zeros. -/
def embeddedOctet? (text : List Char) : Option Nat :=
  if text.length = 1 ∨ text.head? ≠ some '0' then
    (Decimal.readDigits? text).filter (· ≤ 255)
  else none

/-- The two groups of an IPv4 address at the end. -/
def embeddedIpv4? (text : List Char) : Option (List Nat) :=
  match (pieces '.' text).mapM embeddedOctet? with
  | some [a, b, c, d] => some [a * 256 + b, c * 256 + d]
  | _ => none

/-- The groups between single colons; an IPv4 address may stand at the end. -/
def ipv6Groups? : List (List Char) → Option (List Nat)
  | [] => some []
  | [last] =>
    if last.contains '.' then embeddedIpv4? last else (ipv6Group? last).map fun g => [g]
  | group :: others => do
    let g ← ipv6Group? group
    let gs ← ipv6Groups? others
    return g :: gs

/-- What stands before and after the first double colon. -/
def cutDoubleColon? : List Char → Option (List Char × List Char)
  | ':' :: ':' :: rest => some ([], rest)
  | c :: rest => (cutDoubleColon? rest).map fun (before, after) => (c :: before, after)
  | [] => none

/-- The groups of a side of the double colon, which may be empty. -/
def ipv6Side? (side : List Char) : Option (List Nat) :=
  if side = [] then some [] else ipv6Groups? (pieces ':' side)

/-- The eight groups of an address. -/
def readIpv6? (text : List Char) : Option (List Nat) :=
  match cutDoubleColon? text with
  | none => (ipv6Side? text).filter (·.length = 8)
  | some (before, after) => do
    let left ← if before.contains '.' then none else ipv6Side? before
    let right ← ipv6Side? after
    if left.length + right.length ≤ 7 then
      return left ++ List.replicate (8 - left.length - right.length) 0 ++ right
    else none

/-- The length of the run of zeros that starts a list. -/
def zeroRun (groups : List Nat) : Nat := (groups.takeWhile (· = 0)).length

/-- Where the longest run of zeros starts and how long it is; the first one of several. -/
def longestZeroRun : List Nat → Nat × Nat
  | [] => (0, 0)
  | g :: rest =>
    let here := zeroRun (g :: rest)
    let (start, length) := longestZeroRun rest
    if here ≥ length then (0, here) else (start + 1, length)

/-- Groups in hexadecimal with colons. -/
def groupsText (groups : List Nat) : List Char := join ':' (groups.map Hex.ofNat)

/-- An address in its shortest form. -/
def ipv6Text (groups : List Nat) : List Char :=
  let (start, length) := longestZeroRun groups
  if length < 2 then groupsText groups
  else groupsText (groups.take start) ++ ':' :: ':' :: groupsText (groups.drop (start + length))

end ObjectAccess.Url
