import ObjectAccess.Percent

/-!
# Paths of URLs

The path of a URL is cut at its slashes.  A segment of one dot is dropped, one of two
dots takes the segment before it away, and every other segment has the characters
escaped that may not stand in a path.  Escapes that are there already stay, and so does
a drive letter, whatever the dots after it say.
-/

namespace ObjectAccess.Url

set_option autoImplicit false

open ObjectAccess.Text

/-- Whether a character is written as it is in a path. -/
def keptInPath (c : Char) : Bool :=
  '!' ≤ c && c < '\x7F' && !"\"<>`#?\x7b\x7d".toList.contains c

/-- A segment with `%2e` in either case written as a dot. -/
def plainDots : List Char → List Char
  | '%' :: '2' :: e :: rest =>
    if e = 'e' ∨ e = 'E' then '.' :: plainDots rest else '%' :: '2' :: e :: plainDots rest
  | c :: rest => c :: plainDots rest
  | [] => []

/-- Whether a segment stands for the directory itself. -/
def isSingleDot (segment : List Char) : Bool := plainDots segment = ['.']

/-- Whether a segment stands for the directory above. -/
def isDoubleDot (segment : List Char) : Bool := plainDots segment = ['.', '.']

/-- Whether two characters are a drive letter with its mark. -/
def isDrive (letter mark : Char) : Bool := letter.isAlpha && (mark = ':' || mark = '|')

/-- Whether a segment is a drive letter, or one with a backslash and more after it. -/
def startsWithDrive : List Char → Bool
  | [letter, mark] => isDrive letter mark
  | letter :: mark :: '\\' :: _ => isDrive letter mark
  | _ => false

/-- The segments of the directory above, the last one first.  There is nothing above a drive. -/
def directoryAbove : List (List Char) → List (List Char)
  | [] => []
  | last :: before => if startsWithDrive last then last :: before else before

/-- The segments taken so far, the last one first, with another one added.  A directory at the end
is written with a slash after it. -/
def addSegment (atEnd : Bool) (taken : List (List Char)) (segment : List Char) :
    List (List Char) :=
  let close (directory : List (List Char)) := if atEnd then [] :: directory else directory
  if isDoubleDot segment then close (directoryAbove taken)
  else if isSingleDot segment then close taken
  else Percent.encodeWith keptInPath segment :: taken

/-- Goes through the segments with those taken so far, the last one first. -/
def resolveFrom (taken : List (List Char)) : List (List Char) → List (List Char)
  | [] => taken.reverse
  | segment :: others => resolveFrom (addSegment others.isEmpty taken segment) others

/-- The path of the given segments. -/
def pathText (segments : List (List Char)) : List Char := '/' :: join '/' (resolveFrom [] segments)

end ObjectAccess.Url
