import ObjectAccess.Regex.Complaint
import ObjectAccess.Text.Blank

/-!
# Reading a pattern

A pattern is read from its start to its end by a cursor, which knows what is left of it,
the place that was reached, whether blanks and comments are passed over, and the names
of groups that were read.  A reading moves the cursor and may end in a complaint.

Loops take as fuel the number of characters that are left, each turn moves the cursor,
and where the fuel is used up the text is at its end.
-/

namespace ObjectAccess.Regex

set_option autoImplicit false

open ObjectAccess.Text

/-- Where the reader of a pattern stands. -/
structure Cursor where
  rest : List Char
  place : Place := .first
  /-- Whether blanks and comments are passed over. -/
  ignoresBlanks : Bool := false
  /-- The names of groups, with where they stand. -/
  names : List (List Char × Stretch) := []

namespace Cursor

/-- One character further. -/
def next (k : Cursor) : Cursor :=
  match k.rest with
  | [] => k
  | c :: rest => { k with rest := rest, place := k.place.after c }

/-- What follows blanks and comments, and its place. -/
def pastBlanks : Bool → Place → List Char → Place × List Char
  | _, place, [] => (place, [])
  | true, place, c :: rest => pastBlanks (c ≠ '\n') (place.after c) rest
  | false, place, c :: rest =>
    if isBlank c then pastBlanks false (place.after c) rest
    else if c = '#' then pastBlanks true (place.after c) rest
    else (place, c :: rest)

/-- Past blanks and comments, if they are ignored. -/
def skip (k : Cursor) : Cursor :=
  if k.ignoresBlanks then
    let (place, rest) := pastBlanks false k.place k.rest
    { k with rest := rest, place := place }
  else k

/-- The character that follows the one at the cursor. -/
def second? (k : Cursor) : Option Char := (k.rest.drop 1).head?

/-- The character that follows the one at the cursor once blanks are passed over.  A mark that
starts a comment is passed over too, but not the comment. -/
def secondPastBlanks? (k : Cursor) : Option Char :=
  let after := k.rest.drop 1
  if k.ignoresBlanks then
    let visible := after.dropWhile isBlank
    let found := if visible.head? = some '#' then (visible.drop 1).dropWhile isBlank else visible
    found.head?.or after.head?
  else after.head?

end Cursor

/-- A step of reading a pattern. -/
abbrev Reading := StateT Cursor (Except Complaint)

namespace Reading

/-- The place of the cursor. -/
def here : Reading Place := return (← get).place

/-- The character at the cursor. -/
def peek? : Reading (Option Char) := return (← get).rest.head?

/-- An amount of fuel for a loop over the rest. -/
def fuel : Reading Nat := return (← get).rest.length + 1

/-- One character further. -/
def next : Reading Unit := modify Cursor.next

/-- Past blanks and comments, if they are ignored. -/
def skip : Reading Unit := modify Cursor.skip

/-- One character further and past blanks; the character that is found there. -/
def advance : Reading (Option Char) := do
  next
  skip
  peek?

/-- The stretch from a place to the cursor. -/
def since (start : Place) : Reading Stretch := return ⟨start, ← here⟩

/-- The stretch of the character at the cursor. -/
def charStretch : Reading Stretch := do
  let k ← get
  return ⟨k.place, k.next.place⟩

/-- Refuses the pattern because of a stretch. -/
def refuse {α : Type} (cause : Cause) (stretch : Stretch) : Reading α :=
  throw ⟨cause, stretch, none⟩

/-- Refuses the pattern because of what stands between a place and the cursor. -/
def refuseSince {α : Type} (cause : Cause) (start : Place) : Reading α := do
  refuse cause (← since start)

/-- Refuses the pattern at the cursor. -/
def refuseHere {α : Type} (cause : Cause) : Reading α := do refuseSince cause (← here)

/-- Refuses the character at the cursor. -/
def refuseChar {α : Type} (cause : Cause) : Reading α := do refuse cause (← charStretch)

/-- Passes over a text if it comes next, and says whether it does. -/
def take (text : String) : Reading Bool := do
  if text.toList.isPrefixOf (← get).rest then
    modify (Nat.repeat Cursor.next text.length)
    return true
  else return false

/-- The characters that satisfy `p`, one `move` after each of them. -/
def readWhile (p : Char → Bool) (move : Reading Unit) : Nat → Reading (List Char)
  | 0 => return []
  | fuel + 1 => do
    match ← peek? with
    | none => return []
    | some c =>
      if p c then
        move
        return c :: (← readWhile p move fuel)
      else return []

/-- The characters up to a closing brace; nothing if there is none.  A character that does not
satisfy `p` is refused. -/
def readBraced? (p : Char → Bool) (cause : Cause) : Nat → Reading (Option (List Char))
  | 0 => return none
  | fuel + 1 => do
    match ← peek? with
    | none => return none
    | some c =>
      if c = '\x7d' then return some []
      else if p c then
        let _ ← advance
        return (← readBraced? p cause fuel).map (c :: ·)
      else refuseChar cause

end Reading

end ObjectAccess.Regex
