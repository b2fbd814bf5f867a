import ObjectAccess.Regex.Support
import ObjectAccess.Text.Alphanumeric

/-!
# Log filters

A log filter is a list of directives with commas between them.  A directive names
what may be logged: a level alone, or a target with an optional span in brackets,
an optional field in braces inside the brackets, and an optional level after an equals
sign.  Nothing is logged by this library, so a filter is only checked, and the check
says what is wrong with it.

White space at the ends of a directive is not counted when its parts are found, but it
is when they are taken out: each part is cut from the whole directive between the
offsets that were counted.  So white space in front shifts every part, and it may shift
the cut into the middle of a character, which no part can be taken from.
-/

namespace ObjectAccess.CommandLine

set_option autoImplicit false

open ObjectAccess.Text

/-! ## Failures -/

/-- Why a filter cannot be read. -/
inductive FilterError where
  /-- A directive does not have the form of one. -/
  | badDirective
  /-- What stands for a level is none. -/
  | badLevel
  /-- The value of a field is no number and no pattern. -/
  | badValue (reason : Regex.Unusable)
  /-- A part of a directive would start or end inside a character. -/
  | brokenCharacter
  deriving DecidableEq, Repr

/-- The messages of an error and of what caused it. -/
def FilterError.causes : FilterError → List String
  | .badDirective => ["invalid filter directive"]
  | .badLevel =>
    List.replicate 2
      ("error parsing level filter: expected one of \"off\", \"error\", \"warn\", \"info\", "
        ++ "\"debug\", \"trace\", or a number 0-5")
  | .badValue reason =>
    ("invalid field filter: " ++ reason.messages.headD "") :: reason.messages
  | .brokenCharacter => []

/-! ## Levels and fields -/

/-- The names of the levels. -/
def levelNames : List String := ["off", "error", "warn", "info", "debug", "trace"]

/-- Whether a text is a level: a number up to 5 or a name in any case. -/
def isLevel (text : List Char) : Bool :=
  match Decimal.readWord? text with
  | some n => n ≤ 5
  | none => levelNames.any fun name => name.toList = text.map Char.toLower

/-- Checks the level after an equals sign; it may be left out. -/
def checkLevel (text : List Char) : Except FilterError Unit :=
  if text = [] ∨ isLevel text then .ok () else .error .badLevel

/-- A text without a sign at its start. -/
def withoutSign : List Char → List Char
  | '+' :: rest => rest
  | '-' :: rest => rest
  | text => text

/-- Whether a text is nothing or the exponent of a number. -/
def isExponent : List Char → Bool
  | [] => true
  | e :: rest => (e = 'e' || e = 'E') && (Decimal.readDigits? (withoutSign rest)).isSome

/-- Whether a text is a number: with a sign or not, with a point or not, with an exponent or not.
The words for what is not finite count as well. -/
def isNumber (text : List Char) : Bool :=
  let size := withoutSign text
  let rest := size.dropWhile Char.isDigit
  let afterPoint := match rest with
    | '.' :: fraction => fraction
    | _ => rest
  let hasDigits := size.head?.any Char.isDigit || afterPoint.head?.any Char.isDigit
  (hasDigits && isExponent (afterPoint.dropWhile Char.isDigit)) ||
    ["inf", "infinity", "nan"].any fun name => name.toList = size.map Char.toLower

/-- Checks the value of a field: a number or a pattern. -/
def checkValue (value : List Char) : Except FilterError Unit :=
  if isNumber value then .ok () else (Regex.checkPattern value).mapError .badValue

/-- Checks a field: a name, and a value after the first equals sign.  A second equals sign ends the
value. -/
def checkField (text : List Char) : Except FilterError Unit :=
  if text = [] then .error .badDirective
  else
    match pieces '=' text with
    | _ :: value :: _ => checkValue value
    | _ => .ok ()

/-! ## Parts of a directive -/

/-- What is left of a text after a number of octets. -/
def dropOctets? : Nat → List Char → Option (List Char)
  | 0, text => some text
  | _ + 1, [] => none
  | n + 1, c :: rest =>
    if c.utf8Size ≤ n + 1 then dropOctets? (n + 1 - c.utf8Size) rest else none

/-- The first characters of a text, which take a number of octets. -/
def takeOctets? : Nat → List Char → Option (List Char)
  | 0, _ => some []
  | _ + 1, [] => none
  | n + 1, c :: rest =>
    if c.utf8Size ≤ n + 1 then (takeOctets? (n + 1 - c.utf8Size) rest).map (c :: ·) else none

/-- The text from an offset. -/
def textFrom (text : List Char) (start : Nat) : Except FilterError (List Char) :=
  match dropOctets? start text with
  | some rest => .ok rest
  | none => .error .brokenCharacter

/-- The text between two offsets. -/
def textBetween (text : List Char) (start stop : Nat) : Except FilterError (List Char) := do
  match takeOctets? (stop - start) (← textFrom text start) with
  | some part => .ok part
  | none => .error .brokenCharacter

/-! ## Directives -/

/-- The part of a directive that a character belongs to, with the offset where it started. -/
inductive Part where
  | nothing
  /-- A level or a target. -/
  | target (start : Nat)
  | span (start : Nat)
  | field (start : Nat)
  | afterField
  | afterSpan
  | level (start : Nat)
  deriving DecidableEq, Repr

/-- Whether a target can start with a character. -/
def startsTarget (c : Char) : Bool := isAlphanumeric c || c = '-' || c = ':' || c = '_'

namespace Part

/-- The part after a character at an offset.  The directive is given for parts that end there. -/
def next (directive : List Char) (offset : Nat) (c : Char) : Part → Except FilterError Part
  | .nothing =>
    if c = '[' then .ok (.span (offset + 1))
    else if startsTarget c then .ok (.target offset)
    else .error .badDirective
  | .target start => do
    if c = '=' ∨ c = '[' then
      let _ ← textBetween directive start offset
      return if c = '=' then .level (offset + 1) else .span (offset + 1)
    else return .target start
  | .span start => do
    if c = ']' ∨ c = '\x7b' then
      let _ ← textBetween directive start offset
      return if c = ']' then .afterSpan else .field (offset + 1)
    else return .span start
  | .field start => do
    if c = '\x7d' then
      checkField (← textBetween directive start offset)
      return .afterField
    else return .field start
  | .afterField => if c = ']' then .ok .afterSpan else .error .badDirective
  | .afterSpan => if c = '=' then .ok (.level (offset + 1)) else .error .badDirective
  | .level start => .ok (.level start)

/-- Checks that a directive may end in a part. -/
def finish (directive : List Char) : Part → Except FilterError Unit
  | .target _ => .ok ()
  | .afterSpan => .ok ()
  | .level start => do checkLevel (← textFrom directive start)
  | _ => .error .badDirective

/-- Checks the rest of a directive from an offset in a part. -/
def check (directive : List Char) (offset : Nat) : Part → List Char → Except FilterError Unit
  | part, [] => part.finish directive
  | part, c :: rest => do
    check directive (offset + c.utf8Size) (← part.next directive offset c) rest

end Part

/-- Checks a directive. -/
def checkDirective (directive : List Char) : Except FilterError Unit :=
  Part.nothing.check directive 0 (trim isBlank directive)

/-- The directives of a filter; empty ones are skipped. -/
def directives (filter : String) : List (List Char) :=
  (pieces ',' filter.toList).filter (· ≠ [])

/-- Checks a filter. -/
def checkFilter (filter : String) : Except FilterError Unit :=
  (directives filter).forM checkDirective

/-- Checks a filter of which only the directives count that can be read.  No directive can be
passed over at a character that is cut in two. -/
def checkLeniently (filter : String) : Except FilterError Unit :=
  (directives filter).forM fun directive =>
    match checkDirective directive with
    | .error .brokenCharacter => .error .brokenCharacter
    | _ => .ok ()

end ObjectAccess.CommandLine
