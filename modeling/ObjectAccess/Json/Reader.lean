import ObjectAccess.Json.Container

/-!
# Reading any JSON value

A text is read as one value with blanks around it.  Lists and objects may be nested
127 deep.  An object keeps the last member of each name, in ascending order of
the names.
-/

namespace ObjectAccess.Json

set_option autoImplicit false

/-- How many lists and objects may stand inside each other. -/
def maxNesting : Nat := 127

/-- Reads a value inside which `nesting` further containers may be nested. -/
def readValue : Nat → Decoder Value
  | nesting, text =>
    match skipBlank text with
    | [] => .error (.here .endInValue [])
    | c :: rest =>
      if c = 'n' then do
        let rest ← keyword "ull".toList rest
        .ok (.null, rest)
      else if c = 't' then do
        let rest ← keyword "rue".toList rest
        .ok (.boolean true, rest)
      else if c = 'f' then do
        let rest ← keyword "alse".toList rest
        .ok (.boolean false, rest)
      else if c = '-' then do
        let (n, rest) ← numeral false rest
        .ok (.number n, rest)
      else if c.isDigit then do
        let (n, rest) ← numeral true (c :: rest)
        .ok (.number n, rest)
      else if c = '"' then do
        let (s, rest) ← quotedText rest
        .ok (.text s, rest)
      else if c = '[' then
        match nesting with
        | 0 => .error (.next .tooDeep (c :: rest))
        | inner + 1 => do
          let (xs, rest) ← items (readValue inner) rest
          .ok (.list xs, rest)
      else if c = '\x7b' then
        match nesting with
        | 0 => .error (.next .tooDeep (c :: rest))
        | inner + 1 => do
          let (ms, rest) ← members (readValue inner) rest
          .ok (.object (sortMembers ms), rest)
      else .error (.next .valueExpected (c :: rest))

/-- Reads a whole text with a reader: only blanks may follow. -/
def readWhole {α : Type} (decoder : Decoder α) (text : List Char) : Except Failure α := do
  let (x, rest) ← decoder text
  match skipBlank rest with
  | [] => .ok x
  | rest => .error (.next .trailingText rest)

/-- Reads a whole text, with the message of a failure. -/
def decodeText {α : Type} (decoder : Decoder α) (text : String) : Except String α :=
  match readWhole decoder text.toList with
  | .ok x => .ok x
  | .error f => .error (f.message text.toList)

/-- Reads a text as one value. -/
def parse (text : String) : Except String Value := decodeText (readValue maxNesting) text

end ObjectAccess.Json
