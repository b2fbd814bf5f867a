/-!
# Cutting text at separators

Paths, queries, credential scopes and header lists are all texts with a
separator character.  This module cuts such a text into its pieces, splits it at
its first or last separator, and trims runs of one character from its ends.  A
text is a list of characters here, so every operation is a structural recursion.

The pieces of a text are never an empty list: a text without a separator is its
own single piece, and joining the pieces with the separator gives the text back
(`join_pieces`).
-/

namespace ObjectAccess.Text

set_option autoImplicit false

/-! ## Pieces -/

/-- The pieces between the separators, in order. -/
def pieces (sep : Char) : List Char → List (List Char)
  | [] => [[]]
  | c :: rest =>
    if c = sep then [] :: pieces sep rest
    else
      match pieces sep rest with
      | [] => [[c]]
      | piece :: others => (c :: piece) :: others

/-- The pieces written one after the other with the separator between them. -/
def join (sep : Char) : List (List Char) → List Char
  | [] => []
  | [piece] => piece
  | piece :: others => piece ++ sep :: join sep others

theorem pieces_ne_nil (sep : Char) : ∀ text : List Char, pieces sep text ≠ []
  | [] => by simp [pieces]
  | c :: rest => by
      unfold pieces
      split
      · simp
      · split <;> simp

/-- Cutting loses nothing. -/
theorem join_pieces (sep : Char) : ∀ text : List Char, join sep (pieces sep text) = text
  | [] => rfl
  | c :: rest => by
      have ih := join_pieces sep rest
      unfold pieces
      cases h : pieces sep rest with
      | nil => exact absurd h (pieces_ne_nil sep rest)
      | cons piece others =>
          rw [h] at ih
          split
          · next hc => rw [hc]; simpa [join] using ih
          · cases others with
            | nil => simpa [join] using ih
            | cons _ _ => simpa [join] using ih

/-- At most `limit` pieces: the last one keeps the separators that remain. -/
def piecesUpTo (sep : Char) : Nat → List Char → List (List Char)
  | 0, _ => []
  | 1, text => [text]
  | _ + 2, [] => [[]]
  | limit + 2, c :: rest =>
    if c = sep then [] :: piecesUpTo sep (limit + 1) rest
    else
      match piecesUpTo sep (limit + 2) rest with
      | [] => [[c]]
      | piece :: others => (c :: piece) :: others

/-! ## One cut -/

/-- What stands before and after the first separator. -/
def cut? (sep : Char) : List Char → Option (List Char × List Char)
  | [] => none
  | c :: rest =>
    if c = sep then some ([], rest)
    else (cut? sep rest).map fun (before, after) => (c :: before, after)

/-- What stands before and after the last separator. -/
def cutLast? (sep : Char) : List Char → Option (List Char × List Char)
  | [] => none
  | c :: rest =>
    match cutLast? sep rest with
    | some (before, after) => some (c :: before, after)
    | none => if c = sep then some ([], rest) else none

/-! ## Trimming and searching -/

/-- The text without the characters at its end that satisfy `p`. -/
def dropEndWhile (p : Char → Bool) (text : List Char) : List Char :=
  (text.reverse.dropWhile p).reverse

/-- The text without the characters at either end that satisfy `p`. -/
def trim (p : Char → Bool) (text : List Char) : List Char :=
  dropEndWhile p (text.dropWhile p)

/-- Whether `needle` occurs somewhere in the text. -/
def occursIn (needle : List Char) : List Char → Bool
  | [] => needle.isEmpty
  | c :: rest => needle.isPrefixOf (c :: rest) || occursIn needle rest

end ObjectAccess.Text
