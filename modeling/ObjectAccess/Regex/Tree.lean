import ObjectAccess.Regex.Place

/-!
# Patterns as trees

What a pattern consists of: characters, classes, assertions, sets in brackets, groups,
repetitions, sequences and alternatives.  Every part knows the stretch of the pattern
that it is written in.  What a part matches is not kept where no check depends on it.
-/

namespace ObjectAccess.Regex

set_option autoImplicit false

/-- The flags that change how a pattern is read or matched. -/
inductive Flag where
  | ignoreCase
  | multiLine
  | dotMatchesLineFeed
  | swapGreed
  | unicode
  | carriageReturns
  | ignoreBlanks
  deriving DecidableEq, Repr

/-- The letter of a flag. -/
def Flag.ofChar? : Char → Option Flag
  | 'i' => some .ignoreCase
  | 'm' => some .multiLine
  | 's' => some .dotMatchesLineFeed
  | 'U' => some .swapGreed
  | 'u' => some .unicode
  | 'R' => some .carriageReturns
  | 'x' => some .ignoreBlanks
  | _ => none

/-- Flags that are switched on or off. -/
abbrev Setting := List (Flag × Bool)

/-- A character of a pattern. -/
structure Literal where
  stretch : Stretch
  value : Char
  /-- Whether it is written as an octet, by two hexadecimal digits. -/
  isOctet : Bool := false
  deriving DecidableEq, Repr

/-- A part without parts. -/
inductive Atom where
  | literal (l : Literal)
  /-- Any character. -/
  | any (stretch : Stretch)
  /-- The start or the end of a line or of the text. -/
  | anchor (stretch : Stretch)
  /-- A place at the border of a word or away from it. -/
  | boundary (stretch : Stretch)
  /-- Digits, blanks or word characters, or all others. -/
  | category (stretch : Stretch) (negated : Bool)
  /-- The characters with a property. -/
  | property (stretch : Stretch)
  deriving DecidableEq, Repr

/-- The stretch of an atom. -/
def Atom.stretch : Atom → Stretch
  | .literal l => l.stretch
  | .any stretch => stretch
  | .anchor stretch => stretch
  | .boundary stretch => stretch
  | .category stretch _ => stretch
  | .property stretch => stretch

/-- What stands between brackets. -/
inductive CharacterSet where
  | nothing (stretch : Stretch)
  | literal (l : Literal)
  | range (stretch : Stretch) (low high : Literal)
  /-- A class of ASCII characters with a name. -/
  | named (stretch : Stretch) (negated : Bool)
  | category (stretch : Stretch) (negated : Bool)
  | property (stretch : Stretch)
  /-- A set in brackets of its own. -/
  | bracketed (stretch : Stretch) (negated : Bool) (members : CharacterSet)
  | union (stretch : Stretch) (sets : List CharacterSet)
  /-- Two sets with an operator between them. -/
  | combined (stretch : Stretch) (first second : CharacterSet)

/-- The stretch of a set. -/
def CharacterSet.stretch : CharacterSet → Stretch
  | .nothing stretch => stretch
  | .literal l => l.stretch
  | .range stretch _ _ => stretch
  | .named stretch _ => stretch
  | .category stretch _ => stretch
  | .property stretch => stretch
  | .bracketed stretch _ _ => stretch
  | .union stretch _ => stretch
  | .combined stretch _ _ => stretch

/-- A pattern. -/
inductive Tree where
  /-- Nothing at all. -/
  | empty (stretch : Stretch)
  | atom (a : Atom)
  | set (s : CharacterSet)
  /-- Flags for what follows in the same group. -/
  | flags (stretch : Stretch) (setting : Setting)
  | repeated (stretch : Stretch) (part : Tree)
  /-- A group with the flags that hold inside it. -/
  | group (stretch : Stretch) (setting : Setting) (part : Tree)
  | sequence (stretch : Stretch) (parts : List Tree)
  | alternatives (stretch : Stretch) (branches : List Tree)

/-- The stretch of a pattern. -/
def Tree.stretch : Tree → Stretch
  | .empty stretch => stretch
  | .atom a => a.stretch
  | .set s => s.stretch
  | .flags stretch _ => stretch
  | .repeated stretch _ => stretch
  | .group stretch _ _ => stretch
  | .sequence stretch _ => stretch
  | .alternatives stretch _ => stretch

/-- The parts of a stretch one after the other; one part needs no sequence. -/
def Tree.ofParts (stretch : Stretch) : List Tree → Tree
  | [] => .empty stretch
  | [part] => part
  | parts => .sequence stretch parts

end ObjectAccess.Regex
