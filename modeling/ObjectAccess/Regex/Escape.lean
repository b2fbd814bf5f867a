import ObjectAccess.Regex.Cursor
import ObjectAccess.Regex.Tree
import ObjectAccess.Text.Hex

/-!
# Escapes

What follows a backslash: a sign that would mean something else without it, a control
character, a character by its number, a class of characters or an assertion.  Letters
and digits that mean nothing are kept free, so they are refused.
-/

namespace ObjectAccess.Regex

set_option autoImplicit false

namespace Reading

/-! ## Characters by number -/

/-- Whether a character is a hexadecimal digit. -/
def isHexDigit (c : Char) : Bool := (Hex.value? c).isSome

/-- The value of hexadecimal digits. -/
def hexValue (digits : List Char) : Nat :=
  digits.foldl (fun n c => n * 16 + (Hex.value? c).getD 0) 0

/-- How many digits the number of a character has without braces. -/
def hexWidth (letter : Char) : Nat :=
  if letter = 'x' then 2 else if letter = 'u' then 4 else 8

/-- A fixed number of hexadecimal digits. -/
def readHexDigits : Nat → Reading (List Char)
  | 0 => return []
  | count + 1 => do
    match ← peek? with
    | none => refuseHere .escapeUnfinished
    | some c =>
      if isHexDigit c then
        let _ ← advance
        return c :: (← readHexDigits count)
      else refuseChar .hexDigit

/-- The character with a number, which is written in the stretch. -/
def charOf (digits : List Char) (stretch : Stretch) : Reading Char :=
  if (hexValue digits).isValidChar then return Char.ofNat (hexValue digits)
  else refuse .hexNoCharacter stretch

/-- A character by its number in braces; the cursor is at the opening one. -/
def readHexInBraces (start : Place) : Reading Literal := do
  let brace ← here
  let first := (← charStretch).stop
  let _ ← advance
  match ← readBraced? isHexDigit .hexDigit (← fuel) with
  | none => refuseSince .escapeUnfinished brace
  | some digits =>
    let last ← here
    let _ ← advance
    if digits = [] then refuseSince .hexEmpty brace
    else
      let c ← charOf digits ⟨first, last⟩
      return { stretch := ← since start, value := c }

/-- A character by its number; the cursor is at the letter. -/
def readHex (start : Place) (letter : Char) : Reading Literal := do
  if (← advance) = some '\x7b' then readHexInBraces start
  else
    let first ← here
    let digits ← readHexDigits (hexWidth letter)
    let c ← charOf digits (← since first)
    return { stretch := ← since start, value := c, isOctet := letter = 'x' }

/-! ## Classes and assertions -/

/-- A class of the characters with a property; the cursor is at the letter. -/
def readProperty (start : Place) : Reading Atom := do
  match ← advance with
  | none => refuseHere .escapeUnfinished
  | some c =>
    if c = '\x7b' then
      let _ ← advance
      match ← readBraced? (fun _ => true) .propertyName (← fuel) with
      | none => refuseHere .escapeUnfinished
      | some _ =>
        next
        return .property (← since start)
    else if c = '\\' then refuseChar .propertyName
    else
      let _ ← advance
      return .property (← since start)

/-- The kinds of word boundary that have a name. -/
def boundaryNames : List String := ["start", "end", "start-half", "end-half"]

/-- Whether the name of a word boundary may have a character. -/
def isBoundaryChar (c : Char) : Bool := c.isAlpha || c = '-'

/-- The name of a word boundary in braces, if there is one.  Braces that start with something else
are left to the count of a repetition. -/
def readBoundaryName (start : Place) : Reading Unit := do
  let atBrace ← get
  match ← advance with
  | none => refuseSince .boundaryUnfinished start
  | some c =>
    if !isBoundaryChar c then set atBrace
    else
      let first ← here
      let name ← readWhile isBoundaryChar (do next; skip) (← fuel)
      if (← peek?) = some '\x7d' then
        let stretch ← since first
        next
        if !boundaryNames.contains (String.ofList name) then refuse .boundaryUnknown stretch
      else refuseSince .boundaryUnclosed atBrace.place

/-! ## All escapes -/

/-- Whether a character means something of its own in patterns, or is another ASCII sign that may
stand after a backslash. -/
def isEscapable (c : Char) : Bool :=
  c.toNat < 128 && !c.isAlphanum && c ≠ '<' && c ≠ '>'

/-- The control characters that have a letter. -/
def controlOf? : Char → Option Char
  | 'a' => some '\x07'
  | 'f' => some '\x0c'
  | 't' => some '\t'
  | 'n' => some '\n'
  | 'r' => some '\r'
  | 'v' => some '\x0b'
  | _ => none

/-- The letters of categories of characters. -/
def isCategoryLetter (c : Char) : Bool := "dswDSW".toList.contains c

/-- The escape of a single letter or sign that ends at the cursor. -/
def simpleEscape (start : Place) (c : Char) : Reading Atom := do
  let stretch ← since start
  if isEscapable c then return .literal { stretch := stretch, value := c }
  else if let some control := controlOf? c then
    return .literal { stretch := stretch, value := control }
  else if c = 'A' ∨ c = 'z' then return .anchor stretch
  else if c = 'b' then
    if (← peek?) = some '\x7b' then
      readBoundaryName start
      return .boundary (← since start)
    else return .boundary stretch
  else if c = 'B' ∨ c = '<' ∨ c = '>' then return .boundary stretch
  else refuse .escapeUnknown stretch

/-- An escape; the cursor is at the backslash. -/
def readEscape : Reading Atom := do
  let start ← here
  next
  match ← peek? with
  | none => refuseSince .escapeUnfinished start
  | some c =>
    if c.isDigit then refuse .backreference ⟨start, (← charStretch).stop⟩
    else if c = 'x' ∨ c = 'u' ∨ c = 'U' then return .literal (← readHex start c)
    else if c = 'p' ∨ c = 'P' then readProperty start
    else
      next
      if isCategoryLetter c then return .category (← since start) c.isUpper
      else simpleEscape start c

end Reading

end ObjectAccess.Regex
