import ObjectAccess.Text.Hex
import ObjectAccess.Text.Pieces
import ObjectAccess.Text.Ranges

/-!
# Tables in text

A property of many characters is written as a table: words with white space between
them, one for each code point or range of code points in hexadecimal, with a note
after a colon where the property has values.  `41-5A` is a range, and `DF:73.73` a
code point with a note.
-/

namespace ObjectAccess.Text

set_option autoImplicit false

/-- A row of a table: the code points from `first` to `last` and what is said of them. -/
structure Row where
  first : Nat
  last : Nat
  note : List Char

/-- The value of hexadecimal digits. -/
def codePoint (digits : List Char) : Nat :=
  digits.foldl (fun n c => n * 16 + (Hex.value? c).getD 0) 0

/-- Reads a row. -/
def Row.ofWord (word : List Char) : Row :=
  let (range, note) := (cut? ':' word).getD (word, [])
  let (first, last) := (cut? '-' range).getD (range, range)
  ⟨codePoint first, codePoint last, note⟩

/-- Whether a row is about a character. -/
def Row.has (r : Row) (c : Char) : Bool := r.first ≤ c.toNat && c.toNat ≤ r.last

/-- The rows of a table. -/
def rows (table : String) : List Row :=
  (((pieces '\n' table.toList).flatMap (pieces ' ')).filter (· ≠ [])).map Row.ofWord

/-- The ranges of a table without notes. -/
def ranges (table : String) : Ranges := (rows table).map fun r => (r.first, r.last)

/-- The note on a character. -/
def note? (table : List Row) (c : Char) : Option (List Char) :=
  (table.find? fun r => r.has c).map (·.note)

end ObjectAccess.Text
