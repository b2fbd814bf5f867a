/-!
# Places in a pattern

A place is a line and a column, both counted from one in characters.  A stretch is the
text between two places; it may be empty.
-/

namespace ObjectAccess.Regex

set_option autoImplicit false

/-- A place between two characters. -/
structure Place where
  line : Nat
  column : Nat
  deriving DecidableEq, Repr

namespace Place

/-- Where a text starts. -/
def first : Place := ⟨1, 1⟩

/-- The place after a character. -/
def after (p : Place) (c : Char) : Place :=
  if c = '\n' then ⟨p.line + 1, 1⟩ else ⟨p.line, p.column + 1⟩

/-- Whether a place comes before another one or is the same. -/
def isBefore (p q : Place) : Bool :=
  p.line < q.line || (p.line = q.line && p.column ≤ q.column)

end Place

/-- The text between two places. -/
structure Stretch where
  start : Place
  stop : Place
  deriving DecidableEq, Repr

namespace Stretch

/-- Whether a stretch lies in one line. -/
def isInLine (s : Stretch) : Bool := s.start.line = s.stop.line

/-- The order of stretches: by where they start, then by where they stop. -/
def isBefore (s t : Stretch) : Bool :=
  if s.start = t.start then s.stop.isBefore t.stop else s.start.isBefore t.start

end Stretch

end ObjectAccess.Regex
