import ObjectAccess.Json.Value
import ObjectAccess.Text.Quoted
import ObjectAccess.Text.Shortest
import ObjectAccess.Text.Utf8

/-!
# Why a JSON text is refused

A failure has a cause and a place.  The reader knows the place as the text that was
left when it stopped, and how many octets past that point it had looked; the line
and the column, counted in octets, follow from the whole text.

A cause found in the contents of a record, such as a missing field, has no place at
first: it gets the one where its container was left.
-/

namespace ObjectAccess.Json

set_option autoImplicit false

open ObjectAccess.Text

/-- What was met where something else was expected. -/
inductive Found where
  | null
  | boolean (b : Bool)
  | number (n : Number)
  | text (s : String)
  | sequence
  | map

/-- The words for what was met. -/
def Found.describe : Found → String
  | .null => "null"
  | .boolean b => "boolean `" ++ (if b then "true" else "false") ++ "`"
  | .number (.integer n) => "integer `" ++ toString n ++ "`"
  | .number (.real x) => "floating point `" ++ String.ofList (Decimal.ofDouble x) ++ "`"
  | .text s => "string " ++ quote s
  | .sequence => "sequence"
  | .map => "map"

/-- The causes of a failure. -/
inductive Cause where
  | endInList
  | endInObject
  | endInString
  | endInValue
  | colonExpected
  | listEndExpected
  | objectEndExpected
  | keywordExpected
  | valueExpected
  | badEscape
  | badNumber
  | numberOutOfRange
  | controlCharacter
  | nameExpected
  | loneSurrogate
  | brokenSurrogatePair
  | trailingComma
  | trailingText
  | tooDeep
  | wrongType (found : Found) (expected : String)
  | wrongValue (found : Found) (expected : String)
  | wrongLength (length : Nat) (expected : String)
  | unknownVariant (name : String) (known : List String)
  | repeatedField (name : String)
  | missingField (name : String)

/-- The names of variants in a message. -/
def namesOf (known : List String) : String :=
  match known with
  | [only] => "`" ++ only ++ "`"
  | _ => "one of " ++ String.intercalate ", " (known.map fun n => "`" ++ n ++ "`")

/-- The message of a cause, without its place. -/
def Cause.message : Cause → String
  | .endInList => "EOF while parsing a list"
  | .endInObject => "EOF while parsing an object"
  | .endInString => "EOF while parsing a string"
  | .endInValue => "EOF while parsing a value"
  | .colonExpected => "expected `:`"
  | .listEndExpected => "expected `,` or `]`"
  | .objectEndExpected => "expected `,` or `\x7d`"
  | .keywordExpected => "expected ident"
  | .valueExpected => "expected value"
  | .badEscape => "invalid escape"
  | .badNumber => "invalid number"
  | .numberOutOfRange => "number out of range"
  | .controlCharacter => "control character (\\u0000-\\u001F) found while parsing a string"
  | .nameExpected => "key must be a string"
  | .loneSurrogate => "lone leading surrogate in hex escape"
  | .brokenSurrogatePair => "unexpected end of hex escape"
  | .trailingComma => "trailing comma"
  | .trailingText => "trailing characters"
  | .tooDeep => "recursion limit exceeded"
  | .wrongType found expected => "invalid type: " ++ found.describe ++ ", expected " ++ expected
  | .wrongValue found expected => "invalid value: " ++ found.describe ++ ", expected " ++ expected
  | .wrongLength length expected =>
    "invalid length " ++ toString length ++ ", expected " ++ expected
  | .unknownVariant name known => "unknown variant `" ++ name ++ "`, expected " ++ namesOf known
  | .repeatedField name => "duplicate field `" ++ name ++ "`"
  | .missingField name => "missing field `" ++ name ++ "`"

/-- A cause with the text left where it was found. -/
structure Failure where
  cause : Cause
  /-- What had not been read. -/
  rest : List Char
  /-- How many octets of the rest had been looked at. -/
  ahead : Nat
  /-- Whether this is the place to report. -/
  placed : Bool

namespace Failure

/-- A failure found in what was read. -/
def here (cause : Cause) (rest : List Char) : Failure := ⟨cause, rest, 0, true⟩

/-- A failure found in the octet that comes next. -/
def next (cause : Cause) (rest : List Char) : Failure := ⟨cause, rest, 1, true⟩

/-- A failure of a record's contents, to be placed where the record is left. -/
def unplaced (cause : Cause) (rest : List Char) : Failure := ⟨cause, rest, 0, false⟩

/-- Places a failure that has no place yet at the end of its container. -/
def placeAfter (leave : List Char → List Char) (f : Failure) : Failure :=
  if f.placed then f else ⟨f.cause, leave f.rest, 0, true⟩

/-- The line and the column after one more octet. -/
def advance (place : Nat × Nat) (b : UInt8) : Nat × Nat :=
  if b = 0x0A then (place.1 + 1, 0) else (place.1, place.2 + 1)

/-- The line and the column of an octet offset, the line counted from 1. -/
def position (bytes : List UInt8) (offset : Nat) : Nat × Nat :=
  (bytes.take offset).foldl advance (1, 0)

/-- The message with its place in the whole text. -/
def message (f : Failure) (whole : List Char) : String :=
  let bytes := octets whole
  let (line, column) := position bytes (bytes.length - (octets f.rest).length + f.ahead)
  f.cause.message ++ " at line " ++ toString line ++ " column " ++ toString column

end Failure

/-- A reader of a value at the start of a text, with the text after it. -/
abbrev Decoder (α : Type) := List Char → Except Failure (α × List Char)

end ObjectAccess.Json
