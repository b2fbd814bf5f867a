import ObjectAccess.Regex.Escape

/-!
# Sets of characters

A set stands in brackets: characters, ranges, classes and sets in brackets, one after
the other, and operators between such rows.  A circumflex after the opening bracket
negates the set.  Hyphens at the start are characters, and so is a closing bracket that
comes first, because a set is never empty.
-/

namespace ObjectAccess.Regex

set_option autoImplicit false

/-! ## Rows of members -/

/-- The members that were read one after the other, the last one first, and their stretch. -/
structure Row where
  stretch : Stretch
  members : List CharacterSet := []

namespace Row

/-- A row without members at a place. -/
def startingAt (place : Place) : Row := { stretch := ⟨place, place⟩ }

/-- A row with one more member.  It starts where its first member does. -/
def push (row : Row) (member : CharacterSet) : Row :=
  let start := if row.members.isEmpty then member.stretch.start else row.stretch.start
  { stretch := ⟨start, member.stretch.stop⟩, members := member :: row.members }

/-- The set of the members; one member needs no union. -/
def toSet (row : Row) : CharacterSet :=
  match row.members with
  | [] => .nothing row.stretch
  | [member] => member
  | members => .union row.stretch members.reverse

/-- The set of the members, combined with what stands before the operator in front of them. -/
def closed (row : Row) (before? : Option CharacterSet) : CharacterSet :=
  match before? with
  | none => row.toSet
  | some before => .combined ⟨before.stretch.start, row.toSet.stretch.stop⟩ before row.toSet

end Row

namespace Reading

/-! ## Members -/

/-- The names of the classes of ASCII characters. -/
def classNames : List String :=
  ["alnum", "alpha", "ascii", "blank", "cntrl", "digit", "graph", "lower", "print", "punct",
    "space", "upper", "word", "xdigit"]

/-- A class of ASCII characters by its name between `[:` and `:]`.  What does not have this form
is left to be read as a set. -/
def readNamed? : Reading (Option CharacterSet) := do
  let atBracket ← get
  if ← take "[:" then
    let negated ← take "^"
    let name ← readWhile (· ≠ ':') next (← fuel)
    if (← take ":]") && classNames.contains (String.ofList name) then
      return some (.named (← since atBracket.place) negated)
  set atBracket
  return none

/-- A character or an escape in a set. -/
def readSetAtom : Reading Atom := do
  match ← peek? with
  | some '\\' => readEscape
  | c? =>
    let stretch ← charStretch
    next
    return .literal { stretch := stretch, value := c?.getD '\x00' }

/-- An atom as a member of a set. -/
def memberOf : Atom → Reading CharacterSet
  | .literal l => return .literal l
  | .category stretch negated => return .category stretch negated
  | .property stretch => return .property stretch
  | a => refuse .setEscape a.stretch

/-- An atom as the end of a range. -/
def rangeEndOf : Atom → Reading Literal
  | .literal l => return l
  | a => refuse .rangeEnd a.stretch

/-- A range between two atoms. -/
def rangeOf (low high : Atom) : Reading CharacterSet := do
  let stretch : Stretch := ⟨low.stretch.start, high.stretch.stop⟩
  let low ← rangeEndOf low
  let high ← rangeEndOf high
  if low.value ≤ high.value then return .range stretch low high
  else refuse .rangeOrder stretch

/-- Whether a hyphen at the cursor makes a range.  It does not before the end of the set or before
another hyphen. -/
def isRangeAhead : Reading Bool := do
  let second? := (← get).secondPastBlanks?
  return (← peek?) = some '-' && second? ≠ some ']' && second? ≠ some '-'

/-- A character, a range or a class in the set that opens with the stretch. -/
def readMember (opening : Stretch) : Reading CharacterSet := do
  let low ← readSetAtom
  skip
  if (← peek?).isNone then refuse .setUnclosed opening
  if !(← isRangeAhead) then memberOf low
  else
    if (← advance).isNone then refuse .setUnclosed opening
    rangeOf low (← readSetAtom)

/-! ## Brackets -/

/-- How a set opens. -/
structure Opening where
  /-- From the bracket up to the first member that has to be read yet. -/
  stretch : Stretch
  negated : Bool
  row : Row

/-- A row with the hyphens that come next. -/
def readHyphens (start : Place) (row : Row) : Nat → Reading Row
  | 0 => return row
  | fuel + 1 => do
    if (← peek?) = some '-' then
      let row := row.push (.literal { stretch := ← charStretch, value := '-' })
      if (← advance).isNone then refuse .setUnclosed ⟨start, start⟩
      readHyphens start row fuel
    else return row

/-- The opening of a set; the cursor is at the bracket. -/
def readOpening : Reading Opening := do
  let start ← here
  let unfinished {α : Type} : Reading α := refuseSince .setUnclosed start
  let first? ← advance
  if first?.isNone then unfinished
  let negated := first? = some '^'
  if negated then
    if (← advance).isNone then unfinished
  let row ← readHyphens start (Row.startingAt (← here)) (← fuel)
  if row.members.isEmpty && (← peek?) = some ']' then
    let row := row.push (.literal { stretch := ← charStretch, value := ']' })
    if (← advance).isNone then unfinished
    return ⟨← since start, negated, row⟩
  else return ⟨← since start, negated, row⟩

/-- Whether a character written twice is an operator between rows. -/
def isSetOperator (c : Char) : Bool := c = '&' || c = '-' || c = '~'

/-- What stands in the set that opens with the stretch, up to its closing bracket, after a row of
members and what comes before it. -/
def readMembers (opening : Stretch) (before? : Option CharacterSet) (row : Row) :
    Nat → Reading CharacterSet
  | 0 => refuse .setUnclosed opening
  | fuel + 1 => do
    skip
    match ← peek? with
    | none => refuse .setUnclosed opening
    | some c =>
      if c = ']' then return row.closed before?
      else if c = '[' then
        match ← readNamed? with
        | some member => readMembers opening before? (row.push member) fuel
        | none =>
          let inner ← readOpening
          let members ← readMembers inner.stretch none inner.row fuel
          next
          let member := .bracketed (← since inner.stretch.start) inner.negated members
          readMembers opening before? (row.push member) fuel
      else if isSetOperator c && (← get).second? = some c then
        next
        next
        readMembers opening (some (row.closed before?)) (Row.startingAt (← here)) fuel
      else readMembers opening before? (row.push (← readMember opening)) fuel

/-- A set; the cursor is at the opening bracket. -/
def readSet : Reading CharacterSet := do
  let opening ← readOpening
  let members ← readMembers opening.stretch none opening.row (← fuel)
  next
  return .bracketed (← since opening.stretch.start) opening.negated members

end Reading

end ObjectAccess.Regex
