import ObjectAccess.Json.Container

/-!
# Passing over a value

The value of an unknown field is passed over without being kept.  The brackets
that are open are a stack, so nesting has no limit here, and less is checked than
in a value that is kept: an escape only has to have the right form, and a number is
never too large.
-/

namespace ObjectAccess.Json

set_option autoImplicit false

/-- An open list or object. -/
inductive Bracket where
  | list
  | object
  deriving DecidableEq

/-- The failure at the end of the text inside a container. -/
def Bracket.endCause : Bracket → Cause
  | .list => .endInList
  | .object => .endInObject

/-- The failure where neither a comma nor the closing bracket comes next. -/
def Bracket.closeCause : Bracket → Cause
  | .list => .listEndExpected
  | .object => .objectEndExpected

/-- Whether a character closes the container. -/
def Bracket.closedBy (b : Bracket) (c : Char) : Bool :=
  match b with
  | .list => c = ']'
  | .object => c = '\x7d'

/-- Passes over the rest of a text in quotes. -/
def skipQuoted : Nat → List Char → Except Failure (List Char)
  | 0, _ => .error (.here .endInString [])
  | _ + 1, [] => .error (.here .endInString [])
  | fuel + 1, c :: rest =>
    if c = '"' then .ok rest
    else if c = '\\' then
      match rest with
      | [] => .error (.here .endInString [])
      | e :: rest =>
        if e = 'u' then do
          let (_, rest) ← hexQuad rest
          skipQuoted fuel rest
        else if "\"\\/bfnrt".toList.contains e then skipQuoted fuel rest
        else .error (.next .badEscape (e :: rest))
    else if c < ' ' then .error (.here .controlCharacter (c :: rest))
    else skipQuoted fuel rest

/-- Passes over an exponent after its letter. -/
def skipExponent (text : List Char) : Except Failure (List Char) :=
  let text := match text with
    | '+' :: rest => rest
    | '-' :: rest => rest
    | _ => text
  match text with
  | [] => .error (.here .badNumber [])
  | c :: rest =>
    if c.isDigit then .ok (rest.dropWhile Char.isDigit) else .error (.next .badNumber text)

/-- Passes over what may follow the whole part of a number. -/
def skipFraction (text : List Char) : Except Failure (List Char) :=
  match text with
  | '.' :: rest =>
    if digitNext rest then
      let rest := rest.dropWhile Char.isDigit
      if exponentNext rest then skipExponent (rest.drop 1) else .ok rest
    else .error (.next .badNumber rest)
  | _ => if exponentNext text then skipExponent (text.drop 1) else .ok text

/-- Passes over a number after its sign. -/
def skipNumber (text : List Char) : Except Failure (List Char) :=
  match text with
  | [] => .error (.here .badNumber [])
  | c :: rest =>
    if c = '0' then
      if digitNext rest then .error (.next .badNumber rest) else skipFraction rest
    else if c.isDigit then skipFraction (rest.dropWhile Char.isDigit)
    else .error (.next .badNumber text)

/-- Passes over a value that holds no other value; nothing if a container opens instead. -/
def skipScalar (c : Char) (rest : List Char) : Except Failure (List Char) :=
  if c = 'n' then keyword "ull".toList rest
  else if c = 't' then keyword "rue".toList rest
  else if c = 'f' then keyword "alse".toList rest
  else if c = '-' then skipNumber rest
  else if c.isDigit then skipNumber (c :: rest)
  else if c = '"' then skipQuoted (rest.length + 1) rest
  else .error (.next .valueExpected (c :: rest))

/-- Passes over a name and its colon. -/
def skipName (text : List Char) : Except Failure (List Char) :=
  match skipBlank text with
  | [] => .error (.here .endInObject [])
  | c :: rest =>
    if c = '"' then do
      let rest ← skipQuoted (rest.length + 1) rest
      colon rest
    else .error (.next .nameExpected (c :: rest))

/-- What is looked for next while values are passed over. -/
inductive SkipState where
  /-- A value. -/
  | value
  /-- What follows a value: a comma or a closing bracket. -/
  | afterValue
  /-- What follows an opening bracket: a closing one or the first item. -/
  | afterOpening

/-- Passes over a value, with the brackets open around it. -/
def skipFrom : Nat → SkipState → List Bracket → List Char → Except Failure (List Char)
  | 0, _, _, text => .error (.here .endInValue text)
  | fuel + 1, .value, brackets, text =>
    match skipBlank text with
    | [] => .error (.here .endInValue [])
    | c :: rest =>
      if c = '[' then skipFrom fuel .afterOpening (.list :: brackets) rest
      else if c = '\x7b' then skipFrom fuel .afterOpening (.object :: brackets) rest
      else do
        let rest ← skipScalar c rest
        skipFrom fuel .afterValue brackets rest
  | _ + 1, .afterValue, [], text => .ok text
  | fuel + 1, .afterValue, b :: brackets, text =>
    match skipBlank text with
    | [] => .error (.here b.endCause [])
    | c :: rest =>
      if c = ',' then
        match b with
        | .list => skipFrom fuel .value (b :: brackets) rest
        | .object => do
          let rest ← skipName rest
          skipFrom fuel .value (b :: brackets) rest
      else if b.closedBy c then skipFrom fuel .afterValue brackets rest
      else .error (.next b.closeCause (c :: rest))
  | _ + 1, .afterOpening, [], text => .ok text
  | fuel + 1, .afterOpening, b :: brackets, text =>
    match skipBlank text with
    | [] => .error (.here b.endCause [])
    | c :: rest =>
      if b.closedBy c then skipFrom fuel .afterValue brackets rest
      else
        match b with
        | .list => skipFrom fuel .value (b :: brackets) (c :: rest)
        | .object => do
          let rest ← skipName (c :: rest)
          skipFrom fuel .value (b :: brackets) rest

/-- The text after one value.  Each character starts at most two steps. -/
def skipValue (text : List Char) : Except Failure (List Char) :=
  skipFrom (2 * text.length + 2) .value [] text

end ObjectAccess.Json
