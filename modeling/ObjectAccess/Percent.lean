import ObjectAccess.Text.Hex
import ObjectAccess.Text.Pieces
import ObjectAccess.Text.Utf8

/-!
# Percent-coding

A URL part is written with the unreserved characters as they are and every other
character as `%XX` for each of its UTF-8 octets, upper-case.  Reading turns every
`%XX` into its octet, leaves any other `%` alone, and takes the octets as UTF-8.

`encode` writes one component, `encodePath` a path whose `/` stay separators.
-/

namespace ObjectAccess.Percent

set_option autoImplicit false

open ObjectAccess.Text

/-- The characters that stand for themselves: letters, digits, and `-._~`. -/
def isUnreserved (c : Char) : Bool :=
  c.isAlphanum || c = '-' || c = '_' || c = '.' || c = '~'

/-- The escape of one octet. -/
def escape (b : UInt8) : List Char :=
  ['%', Hex.upperDigit (b.toNat / 16), Hex.upperDigit (b.toNat % 16)]

/-- The escapes of all octets of a character. -/
def escapeChar (c : Char) : List Char :=
  (String.utf8EncodeChar c).flatMap escape

/-- Writes a text, escaping every character that `keep` does not keep. -/
def encodeWith (keep : Char → Bool) (text : List Char) : List Char :=
  text.flatMap fun c => if keep c then [c] else escapeChar c

/-- Writes one component: only unreserved characters stand for themselves. -/
def encode (text : List Char) : List Char := encodeWith isUnreserved text

/-- Writes a path, segment by segment. -/
def encodePath (path : List Char) : List Char :=
  join '/' ((pieces '/' path).map encode)

/-- The value of an octet that is a hexadecimal digit. -/
def digitValue? (b : UInt8) : Option Nat := Hex.value? (Char.ofNat b.toNat)

/-- The octet that a `%` before two octets stands for, if they are digits. -/
def escaped? (a high low : UInt8) : Option UInt8 :=
  if a = 0x25 then
    match digitValue? high, digitValue? low with
    | some h, some l => some (UInt8.ofNat (h * 16 + l))
    | _, _ => none
  else none

/-- Turns escapes into octets; a `%` without two digits stays. -/
def decodeOctets : List UInt8 → List UInt8
  | [] => []
  | [a] => [a]
  | [a, b] => [a, b]
  | a :: high :: low :: rest =>
    match escaped? a high low with
    | some b => b :: decodeOctets rest
    | none => a :: decodeOctets (high :: low :: rest)

/-- Reads a component, with U+FFFD where the octets are not UTF-8. -/
def decode (text : List Char) : List Char :=
  decodeLossy (decodeOctets (octets text))

end ObjectAccess.Percent
