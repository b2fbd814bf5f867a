import ObjectAccess.Regex.Place
import ObjectAccess.Text.Decimal
import ObjectAccess.Text.Pieces

/-!
# Complaints about patterns

A complaint says why a pattern is refused and which stretch of it is to blame; a thing
that is there twice has a second stretch.  Its text shows the pattern with carets under
the stretches.  A pattern of several lines is shown between two rules with its lines
numbered, and a stretch that goes over the end of a line is described below them.
-/

namespace ObjectAccess.Regex

set_option autoImplicit false

open ObjectAccess.Text

/-- Why a pattern is refused. -/
inductive Cause where
  /-- An escape stands in a set and is no character of it. -/
  | setEscape
  /-- A range ends before it starts. -/
  | rangeOrder
  /-- A range starts or ends with something else than a character. -/
  | rangeEnd
  | setUnclosed
  | countTooLarge
  | hexEmpty
  /-- A hexadecimal number is no character. -/
  | hexNoCharacter
  | hexDigit
  | escapeUnfinished
  | escapeUnknown
  /-- Nothing follows the negation of flags. -/
  | negationDangling
  | flagTwice
  | negationTwice
  | flagsUnfinished
  | flagUnknown
  | nameTwice
  | nameEmpty
  | nameCharacter
  | nameUnfinished
  | groupUnclosed
  /-- A group is closed that was never opened. -/
  | groupUnopened
  | tooDeep
  /-- The most repetitions are fewer than the least. -/
  | countOrder
  | countEmpty
  | countUnclosed
  | nothingToRepeat
  | boundaryUnclosed
  | boundaryUnknown
  | boundaryUnfinished
  /-- A backslash stands where a property is named. -/
  | propertyName
  | backreference
  | lookAround
  /-- A character stands where octets are read. -/
  | characterAmongOctets
  /-- The pattern matches octets that are no text. -/
  | notText
  | propertyUnknown
  | classUnknown
  | foldingUnknown
  deriving DecidableEq, Repr

/-- How deep the parts of a pattern may be nested. -/
def deepestNesting : Nat := 250

/-- The message of a cause. -/
def Cause.message : Cause → String
  | .setEscape => "invalid escape sequence found in character class"
  | .rangeOrder => "invalid character class range, the start must be <= the end"
  | .rangeEnd => "invalid range boundary, must be a literal"
  | .setUnclosed => "unclosed character class"
  | .countTooLarge => "decimal literal invalid"
  | .hexEmpty => "hexadecimal literal empty"
  | .hexNoCharacter => "hexadecimal literal is not a Unicode scalar value"
  | .hexDigit => "invalid hexadecimal digit"
  | .escapeUnfinished => "incomplete escape sequence, reached end of pattern prematurely"
  | .escapeUnknown => "unrecognized escape sequence"
  | .negationDangling => "dangling flag negation operator"
  | .flagTwice => "duplicate flag"
  | .negationTwice => "flag negation operator repeated"
  | .flagsUnfinished => "expected flag but got end of regex"
  | .flagUnknown => "unrecognized flag"
  | .nameTwice => "duplicate capture group name"
  | .nameEmpty => "empty capture group name"
  | .nameCharacter => "invalid capture group character"
  | .nameUnfinished => "unclosed capture group name"
  | .groupUnclosed => "unclosed group"
  | .groupUnopened => "unopened group"
  | .tooDeep =>
    "exceed the maximum number of nested parentheses/brackets (" ++ toString deepestNesting ++ ")"
  | .countOrder => "invalid repetition count range, the start must be <= the end"
  | .countEmpty => "repetition quantifier expects a valid decimal"
  | .countUnclosed => "unclosed counted repetition"
  | .nothingToRepeat => "repetition operator missing expression"
  | .boundaryUnclosed =>
    "special word boundary assertion is either unclosed or contains an invalid character"
  | .boundaryUnknown =>
    "unrecognized special word boundary assertion, valid choices are: start, end, start-half "
      ++ "or end-half"
  | .boundaryUnfinished =>
    "found either the beginning of a special word boundary or a bounded repetition on a \\b "
      ++ "with an opening brace, but no closing brace"
  | .propertyName => "invalid Unicode character class"
  | .backreference => "backreferences are not supported"
  | .lookAround => "look-around, including look-ahead and look-behind, is not supported"
  | .characterAmongOctets => "Unicode not allowed here"
  | .notText => "pattern can match invalid UTF-8"
  | .propertyUnknown => "Unicode property not found"
  | .classUnknown =>
    "Unicode-aware Perl class not found (make sure the unicode-perl feature is enabled)"
  | .foldingUnknown =>
    "Unicode-aware case insensitivity matching is not available (make sure the unicode-case "
      ++ "feature is enabled)"

/-- Why a pattern is refused, and where. -/
structure Complaint where
  cause : Cause
  stretch : Stretch
  /-- Where the thing is that is there twice. -/
  first? : Option Stretch := none
  deriving DecidableEq, Repr

namespace Complaint

/-! ## The pattern with carets -/

/-- The lines of a text.  A line feed ends a line, with a carriage return in front of it or
without. -/
def linesOf (text : List Char) : List (List Char) :=
  let parts := pieces '\n' text
  let ended := parts.dropLast.map fun line =>
    if line.getLast? = some '\r' then line.dropLast else line
  match parts.getLast? with
  | some (c :: rest) => ended ++ [c :: rest]
  | _ => ended

/-- The stretches of a complaint, in order. -/
def stretches (x : Complaint) : List Stretch :=
  (x.stretch :: x.first?.toList).mergeSort Stretch.isBefore

/-- Carets under stretches of one line, given how much of it is written already.  There is a caret
under an empty stretch as well. -/
def carets : Nat → List Stretch → List Char
  | _, [] => []
  | written, s :: others =>
    let blanks := s.start.column - 1 - written
    let length := max 1 (s.stop.column - s.start.column)
    List.replicate blanks ' ' ++ List.replicate length '^' ++
      carets (written + blanks + length) others

/-- A line with what stands in front of it, and below it the carets that belong to it. -/
def shownLine (x : Complaint) (margin : List Char) (number : Nat) (line : List Char) :
    List (List Char) :=
  match x.stretches.filter fun s => s.isInLine && s.start.line = number with
  | [] => [margin ++ line]
  | marked => [margin ++ line, List.replicate margin.length ' ' ++ carets 0 marked]

/-- What stands in front of a line: its number, if there are several. -/
def margin (width number : Nat) : List Char :=
  if width = 0 then List.replicate 4 ' '
  else (Decimal.digits number).leftpad width ' ' ++ [':', ' ']

/-- The lines of a pattern with their carets. -/
def shownLines (x : Complaint) (pattern : List Char) : List (List Char) :=
  let count := (pieces '\n' pattern).length
  let width := if count ≤ 1 then 0 else (Decimal.digits count).length
  (linesOf pattern).zipIdx.flatMap fun (line, i) => x.shownLine (margin width (i + 1)) (i + 1) line

/-! ## The text -/

/-- The rule above and below a pattern of several lines. -/
def rule : List Char := List.replicate 79 '~'

/-- The description of a stretch that goes over the end of a line. -/
def description (s : Stretch) : List Char :=
  ("on line " ++ toString s.start.line ++ " (column " ++ toString s.start.column
    ++ ") through line " ++ toString s.stop.line ++ " (column " ++ toString (s.stop.column - 1)
    ++ ")").toList

/-- The lines between the heading and the message. -/
def body (x : Complaint) (pattern : List Char) : List (List Char) :=
  if pattern.contains '\n' then
    [rule] ++ x.shownLines pattern ++ [rule]
      ++ (x.stretches.filter fun s => !s.isInLine).map description
  else x.shownLines pattern

/-- The text of a complaint about a pattern. -/
def text (x : Complaint) (pattern : List Char) : String :=
  String.ofList (join '\n'
    (["regex parse error:".toList] ++ x.body pattern ++ [("error: " ++ x.cause.message).toList]))

end Complaint

end ObjectAccess.Regex
