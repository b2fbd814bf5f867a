import ObjectAccess.Regex.Nesting
import ObjectAccess.Regex.Reader

/-!
# Patterns that are supported

Patterns are matched without tables of the properties of characters.  So a pattern is
refused if it needs one: for the digits, blanks or word characters of all scripts, for
a property, for the other case of a character, or for the border of a word.  Where a
pattern reads octets it needs no tables, but all that it matches has to be text.
-/

namespace ObjectAccess.Regex

set_option autoImplicit false

/-- Whether case is ignored, and whether characters are read and not octets. -/
structure Mode where
  ignoresCase : Bool := false
  isUnicode : Bool := true
  deriving DecidableEq, Repr

/-- The mode after a setting. -/
def Mode.after (m : Mode) (setting : Setting) : Mode where
  ignoresCase := (setting.lookup .ignoreCase).getD m.ignoresCase
  isUnicode := (setting.lookup .unicode).getD m.isUnicode

/-- Whether the other case of characters has to be known. -/
def Mode.needsFolding (m : Mode) : Bool := m.isUnicode && m.ignoresCase

/-- Refuses a stretch if a condition holds. -/
def refuseIf (condition : Bool) (cause : Cause) (stretch : Stretch) : Except Complaint Unit :=
  if condition then .error ⟨cause, stretch, none⟩ else .ok ()

/-! ## Characters and classes -/

/-- Refuses an octet that is no character by itself. -/
def Literal.checkOctet (m : Mode) (l : Literal) : Except Complaint Unit :=
  refuseIf (!m.isUnicode && l.isOctet && 128 ≤ l.value.toNat) .notText l.stretch

/-- Checks a character in a set; among octets it has to be one. -/
def Literal.checkMember (m : Mode) (l : Literal) : Except Complaint Unit := do
  l.checkOctet m
  refuseIf (!m.isUnicode && 128 ≤ l.value.toNat) .characterAmongOctets l.stretch

/-- Checks a class of digits, blanks or word characters.  Among octets all others are no text. -/
def checkCategory (m : Mode) (stretch : Stretch) (negated : Bool) : Except Complaint Unit := do
  refuseIf m.isUnicode .classUnknown stretch
  refuseIf negated .notText stretch

/-- Refuses a property. -/
def checkProperty (m : Mode) (stretch : Stretch) : Except Complaint Unit :=
  .error ⟨if m.isUnicode then .propertyUnknown else .characterAmongOctets, stretch, none⟩

/-- Checks an atom. -/
def Atom.check (m : Mode) : Atom → Except Complaint Unit
  | .literal l => do
    l.checkOctet m
    refuseIf m.needsFolding .foldingUnknown l.stretch
  | .any stretch => refuseIf (!m.isUnicode) .notText stretch
  | .anchor _ => .ok ()
  | .boundary _ => .ok ()
  | .category stretch negated => checkCategory m stretch negated
  | .property stretch => checkProperty m stretch

/-! ## Sets -/

/-- Refuses a set if it has characters whose other case is missing, or is negated among octets. -/
def checkClosed (m : Mode) (stretch : Stretch) (negated hasCharacters : Bool) :
    Except Complaint Unit := do
  refuseIf (m.needsFolding && hasCharacters) .foldingUnknown stretch
  refuseIf (!m.isUnicode && negated) .notText stretch

mutual

/-- Checks a set; the result says whether it has characters. -/
def CharacterSet.check (m : Mode) : CharacterSet → Except Complaint Bool
  | .nothing _ => .ok false
  | .literal l => do
    l.checkMember m
    return true
  | .range _ low high => do
    low.checkMember m
    high.checkMember m
    return true
  | .named stretch negated => do
    checkClosed m stretch negated true
    return true
  | .category stretch negated => do
    checkCategory m stretch negated
    return true
  | .property stretch => do
    checkProperty m stretch
    return true
  | .bracketed stretch negated members => do
    let hasCharacters ← members.check m
    checkClosed m stretch negated hasCharacters
    return hasCharacters
  | .union _ sets => checkSets m sets
  | .combined _ first second => do
    let firstHas ← first.check m
    let secondHas ← second.check m
    checkClosed m second.stretch false secondHas
    checkClosed m first.stretch false firstHas
    return firstHas || secondHas

/-- Checks sets one after the other; the result says whether one of them has characters. -/
def checkSets (m : Mode) : List CharacterSet → Except Complaint Bool
  | [] => .ok false
  | s :: others => do
    let first ← s.check m
    let rest ← checkSets m others
    return first || rest

end

/-! ## Patterns -/

/-- What is known after a part of a pattern: the mode for what follows, and whether the border of
a word was asked for among characters. -/
structure Survey where
  mode : Mode := {}
  hasBoundary : Bool := false
  deriving DecidableEq, Repr

mutual

/-- Checks a part of a pattern.  Flags hold to the end of their group. -/
def Tree.check (s : Survey) : Tree → Except Complaint Survey
  | .empty _ => .ok s
  | .atom a => do
    a.check s.mode
    let isBoundary := match a with
      | .boundary _ => s.mode.isUnicode
      | _ => false
    return { s with hasBoundary := s.hasBoundary || isBoundary }
  | .set c => do
    let _ ← c.check s.mode
    return s
  | .flags _ setting => .ok { s with mode := s.mode.after setting }
  | .repeated _ part => part.check s
  | .group _ setting part => do
    let inner ← part.check { s with mode := s.mode.after setting }
    return { inner with mode := s.mode }
  | .sequence _ parts => checkParts s parts
  | .alternatives _ branches => checkParts s branches

/-- Checks parts one after the other. -/
def checkParts (s : Survey) : List Tree → Except Complaint Survey
  | [] => .ok s
  | part :: others => do checkParts (← part.check s) others

end

/-- Why a pattern cannot be used. -/
inductive Unusable where
  | refused (complaint : Complaint) (pattern : List Char)
  /-- It asks for the border of a word. -/
  | needsBoundary
  deriving DecidableEq, Repr

/-- What is said of a pattern that asks for the border of a word. -/
def boundaryMessage : String :=
  "unsupported regex feature for DFAs: cannot build DFAs for regexes with Unicode word "
    ++ "boundaries; switch to ASCII word boundaries, or heuristically enable Unicode word "
    ++ "boundaries or use a different regex engine"

/-- The messages of what makes a pattern unusable, the outermost first. -/
def Unusable.messages : Unusable → List String
  | .refused complaint pattern =>
    ["error building NFA", "error parsing regex", complaint.text pattern]
  | .needsBoundary => [boundaryMessage]

/-- Reads a pattern and surveys it. -/
def survey (pattern : List Char) : Except Complaint Survey := do
  let tree ← Tree.read pattern
  tree.checkNesting 0
  tree.check {}

/-- Checks whether a pattern can be used. -/
def checkPattern (pattern : List Char) : Except Unusable Unit :=
  match survey pattern with
  | .error complaint => .error (.refused complaint pattern)
  | .ok s => if s.hasBoundary then .error .needsBoundary else .ok ()

end ObjectAccess.Regex
