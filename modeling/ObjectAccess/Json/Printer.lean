import ObjectAccess.Json.Value
import ObjectAccess.Text.Hex
import ObjectAccess.Text.Shortest

/-!
# JSON text of a value

`compact` writes no spaces.  `pretty` puts every item and member on a line of its
own, two spaces deeper than its container, and a space after the colon; an empty
container stays on one line.  Inside a text only the quote, the backslash and the
control characters below the space are escaped.
-/

namespace ObjectAccess.Json

set_option autoImplicit false

/-- One character inside a JSON text. -/
def escapeChar (c : Char) : List Char :=
  if c = '"' then ['\\', '"']
  else if c = '\\' then ['\\', '\\']
  else if c = '\x08' then ['\\', 'b']
  else if c = '\x0C' then ['\\', 'f']
  else if c = '\n' then ['\\', 'n']
  else if c = '\r' then ['\\', 'r']
  else if c = '\t' then ['\\', 't']
  else if c < ' ' then
    ['\\', 'u', '0', '0', Hex.lowerDigit (c.toNat / 16), Hex.lowerDigit (c.toNat % 16)]
  else [c]

/-- A text in quotes. -/
def quoted (s : String) : List Char := '"' :: (s.toList.flatMap escapeChar ++ ['"'])

/-- The text of a number. -/
def Number.text : Number → List Char
  | .integer n => Decimal.ofInt n
  | .real x => Decimal.ofDouble x

/-- The text of a truth value. -/
def booleanText (b : Bool) : List Char := if b then "true".toList else "false".toList

/-! ## Without spaces -/

mutual
/-- The text of a value. -/
def compact : Value → List Char
  | .null => "null".toList
  | .boolean b => booleanText b
  | .number n => n.text
  | .text s => quoted s
  | .list [] => ['[', ']']
  | .list (item :: others) => '[' :: (compact item ++ compactItems others)
  | .object [] => ['\x7b', '\x7d']
  | .object ((name, value) :: others) =>
    '\x7b' :: (quoted name ++ ':' :: (compact value ++ compactMembers others))

/-- The items after the first one, with the bracket that closes the list. -/
def compactItems : List Value → List Char
  | [] => [']']
  | item :: others => ',' :: (compact item ++ compactItems others)

/-- The members after the first one, with the brace that closes the object. -/
def compactMembers : List (String × Value) → List Char
  | [] => ['\x7d']
  | (name, value) :: others =>
    ',' :: (quoted name ++ ':' :: (compact value ++ compactMembers others))
end

/-! ## With lines -/

/-- A line break and two spaces for each level. -/
def newLine (level : Nat) : List Char := '\n' :: List.replicate (2 * level) ' '

mutual
/-- The text of a value that starts at a level. -/
def prettyAt (level : Nat) : Value → List Char
  | .null => "null".toList
  | .boolean b => booleanText b
  | .number n => n.text
  | .text s => quoted s
  | .list [] => ['[', ']']
  | .list (item :: others) =>
    '[' :: (newLine (level + 1) ++ prettyAt (level + 1) item ++ prettyItems level others)
  | .object [] => ['\x7b', '\x7d']
  | .object ((name, value) :: others) =>
    '\x7b' :: (newLine (level + 1) ++ quoted name ++ ':' :: ' ' :: prettyAt (level + 1) value
      ++ prettyMembers level others)

/-- The items after the first one, with the bracket that closes the list. -/
def prettyItems (level : Nat) : List Value → List Char
  | [] => newLine level ++ [']']
  | item :: others =>
    ',' :: (newLine (level + 1) ++ prettyAt (level + 1) item ++ prettyItems level others)

/-- The members after the first one, with the brace that closes the object. -/
def prettyMembers (level : Nat) : List (String × Value) → List Char
  | [] => newLine level ++ ['\x7d']
  | (name, value) :: others =>
    ',' :: (newLine (level + 1) ++ quoted name ++ ':' :: ' ' :: prettyAt (level + 1) value
      ++ prettyMembers level others)
end

/-- The text of a value on lines. -/
def pretty (v : Value) : List Char := prettyAt 0 v

/-- The compact text as a string. -/
def Value.compactText (v : Value) : String := String.ofList (compact v)

/-- The text on lines as a string. -/
def Value.prettyText (v : Value) : String := String.ofList (pretty v)

end ObjectAccess.Json
