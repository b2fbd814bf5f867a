import ObjectAccess.Fault
import ObjectAccess.Text.Decimal
import ObjectAccess.Text.Pieces

/-!
# Bucket names

A bucket name is part of a host name or of a path, so its form is restricted.  The
rules are tried in a fixed order, and the first one that is broken is reported.
-/

namespace ObjectAccess.Naming

set_option autoImplicit false

open ObjectAccess.Text

/-- The rules a bucket name can break, in the order they are tried. -/
inductive BucketNameFlaw where
  | length
  | character
  | ends
  | consecutiveDots
  | address
  | reservedStart
  | reservedEnd
  deriving DecidableEq, Repr

/-- What a rule demands. -/
def BucketNameFlaw.demand : BucketNameFlaw → String
  | .length => "Bucket name must be between 3 and 63 characters long"
  | .character => "Bucket name must only contain lowercase letters, numbers, hyphens, and dots"
  | .ends => "Bucket name must start and end with a letter or number"
  | .consecutiveDots => "Bucket name must not contain consecutive dots"
  | .address => "Bucket name must not be formatted as an IP address"
  | .reservedStart => "Bucket name must not start with a reserved prefix"
  | .reservedEnd => "Bucket name must not end with '-s3alias'"

/-- A lower-case ASCII letter or a digit. -/
def isLetterOrDigit (c : Char) : Bool := c.isLower || c.isDigit

/-- A character that may stand in a bucket name. -/
def isBucketChar (c : Char) : Bool := isLetterOrDigit c || c = '-' || c = '.'

/-- A decimal number from 0 to 255 without leading zeros. -/
def isAddressPart (text : List Char) : Bool :=
  text ≠ [] && text.length ≤ 3 && text.all Char.isDigit &&
    (text.length = 1 || text.head? ≠ some '0') && Decimal.value text ≤ 255

/-- Four such numbers with dots between them. -/
def isAddress (text : List Char) : Bool :=
  let parts := pieces '.' text
  parts.length = 4 && parts.all isAddressPart

/-- The first rule that a name breaks.  The length is counted in octets. -/
def bucketNameFlaw? (name : String) : Option BucketNameFlaw :=
  let text := name.toList
  if name.utf8ByteSize < 3 ∨ 63 < name.utf8ByteSize then some .length
  else if text.all isBucketChar = false then some .character
  else if text.head?.any isLetterOrDigit = false ∨ text.getLast?.any isLetterOrDigit = false then
    some .ends
  else if occursIn ['.', '.'] text then some .consecutiveDots
  else if isAddress text then some .address
  else if "xn--".toList.isPrefixOf text ∨ "sthree-".toList.isPrefixOf text then some .reservedStart
  else if "-s3alias".toList.isSuffixOf text then some .reservedEnd
  else none

/-- Accepts a bucket name or reports the rule it breaks. -/
def checkBucketName (name : String) : Except Fault Unit :=
  match bucketNameFlaw? name with
  | none => .ok ()
  | some flaw =>
    .error (.ofKind .invalidBucketName ("Invalid bucket name: " ++ name ++ ": " ++ flaw.demand))

end ObjectAccess.Naming
