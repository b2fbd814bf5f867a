import ObjectAccess.Text.Ranges

/-!
# White space

The characters with the White_Space property.  Header values are trimmed and their
inner runs collapsed by this property, and it is what may stand before a number
in a signing time.
-/

namespace ObjectAccess.Text

set_option autoImplicit false

/-- The ranges of White_Space. -/
def blankRanges : Ranges :=
  [(0x9, 0xD), (0x20, 0x20), (0x85, 0x85), (0xA0, 0xA0), (0x1680, 0x1680), (0x2000, 0x200A),
   (0x2028, 0x2029), (0x202F, 0x202F), (0x205F, 0x205F), (0x3000, 0x3000)]

/-- Whether a character is white space. -/
def isBlank (c : Char) : Bool := blankRanges.has c

/-- The words of a text, without the white space between them. -/
def words : List Char → List (List Char)
  | [] => []
  | c :: rest =>
    if isBlank c then words rest
    else
      match rest with
      | [] => [[c]]
      | d :: _ =>
        if isBlank d then [c] :: words rest
        else
          match words rest with
          | [] => [[c]]
          | word :: others => (c :: word) :: others

/-- The text trimmed, with a single space for every inner run of white space. -/
def collapse (text : List Char) : List Char :=
  [' '].intercalate (words text)

end ObjectAccess.Text
