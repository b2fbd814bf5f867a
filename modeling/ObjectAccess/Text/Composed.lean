import ObjectAccess.Text.CombiningClass
import ObjectAccess.Text.Composition

/-!
# Composed text

Equivalent texts have one composed form: every composite is taken apart, marks are
put into the order of their classes, and then each base takes up the marks after it
that it can, unless another mark of the same or a higher class stands between.
-/

namespace ObjectAccess.Text

set_option autoImplicit false

/-- No character has to be taken apart more often than this. -/
def maxSplits : Nat := 4

/-- A character taken apart up to so many times. -/
def takeApart : Nat → Char → List Char
  | 0, c => [c]
  | n + 1, c =>
    match split? c with
    | some (first, second) => takeApart n first ++ takeApart n second
    | none => [c]

/-- Puts a character at the end of a reversed text, before the marks of higher class. -/
def place (c : Char) : List Char → List Char
  | [] => [c]
  | d :: rest =>
    if combiningClass c ≠ 0 ∧ combiningClass c < combiningClass d then d :: place c rest
    else c :: d :: rest

/-- The text with every composite taken apart and its marks in order. -/
def decompose (text : List Char) : List Char :=
  ((text.flatMap (takeApart maxSplits)).foldl (fun placed c => place c placed) []).reverse

/-- Whether the last of the marks after a base keeps the base from taking up a character. -/
def isBlocked (marks : List Char) (c : Char) : Bool :=
  marks.head?.any fun d => combiningClass c ≤ combiningClass d

/-- Joins the rest of a text to a base and the marks that it did not take up, the last one
first. -/
def composeFrom (base : Char) (marks : List Char) : List Char → List Char
  | [] => base :: marks.reverse
  | c :: rest =>
    match if isBlocked marks c then none else join? base c with
    | some whole => composeFrom whole marks rest
    | none =>
      if combiningClass c = 0 then base :: (marks.reverse ++ composeFrom c [] rest)
      else composeFrom base (c :: marks) rest

/-- The composed form of a text. -/
def compose (text : List Char) : List Char :=
  match decompose text with
  | [] => []
  | base :: rest => composeFrom base [] rest

end ObjectAccess.Text
