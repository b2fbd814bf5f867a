import ObjectAccess.Text.Mark
import ObjectAccess.Text.Table

/-!
# Directions

A label that is written from right to left may hold only characters whose place does not
depend on what stands around it, and as soon as one label of a domain does, the
others have to hold to the rule as well.
-/

namespace ObjectAccess.Idna

set_option autoImplicit false

open ObjectAccess.Text

/-- How a character takes part in the direction of a text. -/
inductive Direction where
  | leftToRight
  | rightToLeft
  | arabicLetter
  | arabicNumber
  | europeanNumber
  | europeanSeparator
  | europeanTerminator
  | commonSeparator
  | nonspacing
  | neutral
  | boundary
  deriving DecidableEq, Repr

/-- The characters of each direction other than from left to right. -/
def directionRanges : List (Direction × Ranges) := [
  (.rightToLeft, ranges "
  5BE-5F4 7C0-7F5 7FA-85E 10800-1091B 10920-10B35 10B40-10CFF 10D4A-10D4F 10D6F-10D8F
  10E80-10EB1 10F00-10F27 10F70-10FF6 1E800-1E95F"),
  (.arabicLetter, ranges "
  608 60B 60D 61B-64A 66D-6D5 6E5-6E6 6EE-6EF 6FA-7B1 860-8C9 FBB2-FBC2 FE73 10D00-10D23
  10EC2-10EC9 10ED9 10F30-10F59 1EC71-1ED3D"),
  (.arabicNumber, ranges "
  660-669 66B-66C 10D30-10D49 10E60-10E7E"),
  (.europeanNumber, ranges "
  30-39 6F0-6F9 102E1-102FB"),
  (.europeanSeparator, ranges "
  2B 2D 2212"),
  (.commonSeparator, ranges "
  2C 2E-2F 3A 60C 2044"),
  (.europeanTerminator, ranges "
  23-25 A2-A5 B0-B1 58F 609-60A 66A 9F2-9F3 9FB AF1 BF9 E3F 17DB 2030-2032 20A0-20C4 212E 2213
  A838-A839 11FDD-11FE0 1E2FF"),
  (.boundary, ranges "
  200C-200D"),
  (.neutral, ranges "
  21-22 26-2A 3B-60 7B-A1 A6-AE B6-D7 F7 2B9-2BA 2C2-2CF 2D2-2ED 2EF-2FF 375 3F6 58A-58E 606-607
  60E-60F 6DE 6E9 7F6-7F9 BF3-BF8 BFA C78-C7E F3A-F3D 1390-1399 1400 169B-169C 17F0-180A
  1940-1945 19DE-19FF 2010-2027 2035-2043 2045-205E 2104-2129 213A-214D 218A-2211 2214-2335
  237B-2394 2396-26AB 26AD-27FF 2900-2BFF 2CE5-2CEA 2CF9-2CFF 2E00-3004 3008-3020 3030 3037
  303D-303F 30A0 30FB 31C0-31E5 4DC0-4DFF A490-A4C6 A60D-A60F A673-A67F A700-A721 A788 A828-A82B
  A874-A877 AB6A-AB6B FBC3-FE46 10101 10140-1018C 10190-101A0 1091F 10B39-10B3F 10D6E
  10ED0-10ED8 11052-11065 11660-1166C 11FD5-11FDC 11FE1-11FF1 16FE2 1CC00-1CEF0 1D1E9-1D245
  1D300-1D356 1EEF0-1F12F 1F16D-1F16F 1F1AD 1F260-1FBFA")]

/-- The nonspacing marks that are written from left to right. -/
def leftToRightMarks : Ranges := ranges "CBF CC6 11A07-11A08 11C3F"

/-- The direction of a character that a label may hold. -/
def direction (c : Char) : Direction :=
  if isNonspacing c then if leftToRightMarks.has c then .leftToRight else .nonspacing
  else
    match directionRanges.find? fun d => d.2.has c with
    | some (d, _) => d
    | none => .leftToRight

namespace Direction

/-- Whether a character makes its domain one with labels from right to left. -/
def isRightward (d : Direction) : Bool := d = .rightToLeft || d = .arabicLetter || d = .arabicNumber

/-- Whether a character may stand in every label. -/
def isWeak (d : Direction) : Bool :=
  d = .europeanNumber || d = .europeanSeparator || d = .commonSeparator ||
    d = .europeanTerminator || d = .neutral || d = .boundary || d = .nonspacing

/-- The direction of the last character that is not a nonspacing mark. -/
def last? (ds : List Direction) : Option Direction := (ds.filter (· ≠ .nonspacing)).getLast?

/-- Whether a label may be written from right to left. -/
def fitRightToLeft (ds : List Direction) : Bool :=
  ds.all (fun d => d.isRightward || d.isWeak) &&
    (last? ds).any (fun d => d.isRightward || d = .europeanNumber) &&
    !(ds.contains .europeanNumber && ds.contains .arabicNumber)

/-- Whether a label may be written from left to right. -/
def fitLeftToRight (ds : List Direction) : Bool :=
  ds.all (fun d => d = .leftToRight || d.isWeak) &&
    (last? ds).any fun d => d = .leftToRight || d = .europeanNumber

/-- Whether the characters of a label agree on a direction; the first one decides which. -/
def agree (ds : List Direction) : Bool :=
  match ds with
  | [] => true
  | .leftToRight :: _ => fitLeftToRight ds
  | .rightToLeft :: _ | .arabicLetter :: _ => fitRightToLeft ds
  | _ => false

end Direction

/-- Whether the labels of a domain agree on their directions. -/
def directionsAgree (labels : List (List Char)) : Bool :=
  let directions := labels.map fun label => label.map direction
  !(directions.any fun ds => ds.any (·.isRightward)) || directions.all Direction.agree

end ObjectAccess.Idna
