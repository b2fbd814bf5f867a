import ObjectAccess.Json.Reader
import ObjectAccess.Json.Skip

/-!
# Reading values of a known form

Readers for the kinds of value that configurations and policies are made of: texts,
machine words, lists, dictionaries, named variants, optional values and records.
A value of another kind is refused with what was met and what was expected.

A record is an object with its fields by name, in any order, or a list with its
fields in order.  `Shape` describes one: how each field is read into a partial
record, and how the record is built once every field is there.
-/

namespace ObjectAccess.Json

set_option autoImplicit false

variable {α σ : Type}

/-- Why the value at the start of a text is not what was expected.  A value without parts is
read first, so the failure stands after it. -/
def unexpected (expected : String) (c : Char) (rest : List Char) : Failure :=
  let after (found : Found) (rest : List Char) : Failure := .here (.wrongType found expected) rest
  if c = 'n' then
    match keyword "ull".toList rest with
    | .ok rest => after .null rest
    | .error f => f
  else if c = 't' then
    match keyword "rue".toList rest with
    | .ok rest => after (.boolean true) rest
    | .error f => f
  else if c = 'f' then
    match keyword "alse".toList rest with
    | .ok rest => after (.boolean false) rest
    | .error f => f
  else if c = '-' then
    match numeral false rest with
    | .ok (n, rest) => after (.number n) rest
    | .error f => f
  else if c.isDigit then
    match numeral true (c :: rest) with
    | .ok (n, rest) => after (.number n) rest
    | .error f => f
  else if c = '"' then
    match quotedText rest with
    | .ok (s, rest) => after (.text s) rest
    | .error f => f
  else if c = '[' then after .sequence (c :: rest)
  else if c = '\x7b' then after .map (c :: rest)
  else .next .valueExpected (c :: rest)

/-- Reads a text; `expected` names what it stands for. -/
def textNamed (expected : String) : Decoder String := fun text =>
  match skipBlank text with
  | [] => .error (.here .endInValue [])
  | c :: rest => if c = '"' then quotedText rest else .error (unexpected expected c rest)

/-- Reads a text. -/
def string : Decoder String := textNamed "a string"

/-- Reads a whole number of 64 bits without sign. -/
def word : Decoder Nat := fun text =>
  match skipBlank text with
  | [] => .error (.here .endInValue [])
  | c :: rest =>
    if c = '-' || c.isDigit then do
      let (n, rest) ← if c = '-' then numeral false rest else numeral true (c :: rest)
      match n with
      | .integer i =>
        if 0 ≤ i then .ok (i.toNat, rest)
        else .error (.here (.wrongValue (.number n) "u64") rest)
      | .real _ => .error (.here (.wrongType (.number n) "u64") rest)
    else .error (unexpected "u64" c rest)

/-- Reads a list. -/
def list (item : Decoder α) : Decoder (List α) := fun text =>
  match skipBlank text with
  | [] => .error (.here .endInValue [])
  | c :: rest => if c = '[' then items item rest else .error (unexpected "a sequence" c rest)

/-- Reads an object with any names, in the order of the text. -/
def dictionary (value : Decoder α) : Decoder (List (String × α)) := fun text =>
  match skipBlank text with
  | [] => .error (.here .endInValue [])
  | c :: rest => if c = '\x7b' then members value rest else .error (unexpected "a map" c rest)

/-- Reads a value or `null`. -/
def optional (value : Decoder α) : Decoder (Option α) := fun text =>
  match skipBlank text with
  | 'n' :: rest => do
    let rest ← keyword "ull".toList rest
    .ok (none, rest)
  | text => do
    let (x, rest) ← value text
    .ok (some x, rest)

/-! ## Variants -/

/-- Reads the name of a variant and looks it up. -/
def variantName (known : List (String × α)) (expected : String) : Decoder α := fun text => do
  let (name, rest) ← textNamed expected text
  match known.find? (·.1 = name) with
  | some (_, x) => .ok (x, rest)
  | none => .error (.here (.unknownVariant name (known.map (·.1))) rest)

/-- The text at the quote that starts the name in an object that stands for a variant. -/
def variantStart (text : List Char) : Except Failure (List Char) :=
  match skipBlank text with
  | [] => .error (.here .endInObject [])
  | c :: rest =>
    if c = '"' then .ok (c :: rest)
    else if c = '\x7d' then .error (.next .valueExpected (c :: rest))
    else .error (.next .nameExpected (c :: rest))

/-- Reads `null` where a variant has no content. -/
def nothing : Decoder Unit := fun text =>
  match skipBlank text with
  | [] => .error (.here .endInValue [])
  | c :: rest =>
    if c = 'n' then do
      let rest ← keyword "ull".toList rest
      .ok ((), rest)
    else .error (unexpected "unit" c rest)

/-- Reads a variant: its name, or an object with the name and `null`. -/
def variant (known : List (String × α)) : Decoder α := fun text =>
  match skipBlank text with
  | [] => .error (.here .endInValue [])
  | c :: rest =>
    if c = '"' then variantName known "variant identifier" (c :: rest)
    else if c = '\x7b' then do
      let rest ← variantStart rest
      let (x, rest) ← variantName known "variant identifier" rest
      let rest ← colon rest
      let (_, rest) ← nothing rest
      match skipBlank rest with
      | [] => .error (.here .endInObject [])
      | c :: rest => if c = '\x7d' then .ok (x, rest) else .error (.here .valueExpected (c :: rest))
    else .error (.next .valueExpected (c :: rest))

/-! ## Records -/

/-- A field of a record under construction. -/
structure RecordField (σ : Type) where
  name : String
  /-- Whether the field has been read. -/
  isSet : σ → Bool
  /-- Reads the field's value into the record. -/
  read : σ → Decoder σ
  /-- Whether the record is complete without the field. -/
  mayMiss : Bool

/-- The form of a record. -/
structure Shape (σ α : Type) where
  name : String
  /-- The record before any field is read. -/
  blank : σ
  /-- The fields in order. -/
  fields : List (RecordField σ)
  /-- The record once its fields are read. -/
  build : σ → Option α

namespace Shape

/-- What a list with too few fields should have been. -/
def description (s : Shape σ α) : String :=
  "struct " ++ s.name ++ " with " ++ toString s.fields.length ++
    (if s.fields.length = 1 then " element" else " elements")

/-- Reads fields by name up to the closing brace, which is left in the text. -/
def readMembers (s : Shape σ α) : Nat → Bool → σ → Decoder σ
  | 0, _, _, text => .error (.here .endInObject text)
  | fuel + 1, isFirst, partially, text => do
    let (more, text) ← nextName isFirst text
    if more then
      let (name, text) ← quotedText text
      match s.fields.find? (·.name = name) with
      | some field =>
        if field.isSet partially then .error (.unplaced (.repeatedField name) text)
        else
          let text ← colon text
          let (partially, text) ← field.read partially text
          s.readMembers fuel false partially text
      | none =>
        let text ← colon text
        let text ← skipValue text
        s.readMembers fuel false partially text
    else .ok (partially, text)

/-- The first field that is missing. -/
def missing? (s : Shape σ α) (partially : σ) : Option String :=
  (s.fields.find? fun f => !f.mayMiss && !f.isSet partially).map (·.name)

/-- The record, or the field it misses. -/
def complete (s : Shape σ α) (partially : σ) (text : List Char) : Except Failure α :=
  match s.missing? partially, s.build partially with
  | none, some x => .ok x
  | missing, _ => .error (.unplaced (.missingField (missing.getD "")) text)

/-- Reads fields in order from a list. -/
def readInOrder (s : Shape σ α) : List (RecordField σ) → Nat → σ → Decoder σ
  | [], _, partially, text => .ok (partially, text)
  | field :: others, count, partially, text => do
    let (more, text) ← nextItem (count = 0) text
    if more then
      let (partially, text) ← field.read partially text
      s.readInOrder others (count + 1) partially text
    else if field.mayMiss then s.readInOrder others count partially text
    else .error (.unplaced (.wrongLength count s.description) text)

/-- Reads a record in either form. -/
def read (s : Shape σ α) : Decoder α := fun text =>
  match skipBlank text with
  | [] => .error (.here .endInValue [])
  | c :: rest =>
    if c = '\x7b' then
      match (do
        let (partially, rest) ← s.readMembers (rest.length + 1) true s.blank rest
        let x ← s.complete partially rest
        .ok (x, rest) : Except Failure (α × List Char)) with
      | .ok (x, rest) => (closeObject rest).map fun rest => (x, rest)
      | .error f => .error (f.placeAfter leaveObject)
    else if c = '[' then
      match (do
        let (partially, rest) ← s.readInOrder s.fields 0 s.blank rest
        let x ← s.complete partially rest
        .ok (x, rest) : Except Failure (α × List Char)) with
      | .ok (x, rest) => (closeList rest).map fun rest => (x, rest)
      | .error f => .error (f.placeAfter leaveList)
    else .error (unexpected ("struct " ++ s.name) c rest)

end Shape

end ObjectAccess.Json
