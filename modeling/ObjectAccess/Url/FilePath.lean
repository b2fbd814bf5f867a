import ObjectAccess.Text.Pieces
import ObjectAccess.Url.Path

/-!
# Paths of file URLs

The path of a file URL belongs to a host unless a drive letter takes its first place:
drives have no host.  Tabs and line breaks do not count in a path, except that a drive
letter with a colon and a break after it is a segment of its own, although no slash
follows it, and leaves the path its host.
-/

namespace ObjectAccess.Url

set_option autoImplicit false

open ObjectAccess.Text

/-- Whether a character is a tab or a line break. -/
def isBreak (c : Char) : Bool := c = '\t' || c = '\n' || c = '\r'

/-- A text without its tabs and line breaks. -/
def withoutBreaks (text : List Char) : List Char := text.filter fun c => !isBreak c

/-- Whether a segment is a drive letter. -/
def isDriveLetter : List Char → Bool
  | [letter, mark] => isDrive letter mark
  | _ => false

/-- The drive letter at the start of a segment and what follows it after a break. -/
def cutDrive? (segment : List Char) : Option (List Char × List Char) :=
  match segment.dropWhile isBreak with
  | letter :: rest =>
    match rest.dropWhile isBreak with
    | ':' :: c :: rest =>
      if letter.isAlpha && isBreak c && withoutBreaks rest ≠ [] then
        some ([letter, ':'], withoutBreaks rest)
      else none
    | _ => none
  | [] => none

/-- Goes through the segments of a file path with those taken so far, the last one first; nothing
if a drive letter comes first. -/
def resolveFile? (taken : List (List Char)) : List (List Char) → Option (List (List Char))
  | [] => some taken.reverse
  | segment :: others =>
    let plain := withoutBreaks segment
    if taken ≠ [] then resolveFile? (addSegment others.isEmpty taken plain) others
    else
      match cutDrive? segment with
      | some (drive, rest) => resolveFile? [Percent.encodeWith keptInPath rest, drive] others
      | none =>
        if isDriveLetter plain then none
        else resolveFile? (addSegment others.isEmpty taken plain) others

/-- The path of a file on a host, given what follows its first slash; nothing if it is on a drive.
There is one slash at its start. -/
def filePath? (text : List Char) : Option (List Char) :=
  (resolveFile? [] (pieces '/' text)).map fun segments =>
    '/' :: (join '/' segments).dropWhile (· = '/')

end ObjectAccess.Url
