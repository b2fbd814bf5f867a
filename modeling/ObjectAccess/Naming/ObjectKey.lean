import ObjectAccess.Fault
import ObjectAccess.Text.Decimal
import ObjectAccess.Text.Pieces
import ObjectAccess.Time.Stamp

/-!
# Object keys

A key is any text of 1 to 1024 octets.  Callers write paths with slashes at their
ends, which are trimmed before a path is used as a key.  Two kinds of key are made
here: one for an upload, from the day, an id and the extension of the file, and one
for a copy without a target, from the time and the source.
-/

namespace ObjectAccess.Naming

set_option autoImplicit false

open ObjectAccess.Text ObjectAccess.Time

/-- The most octets a key may have. -/
def maxKeyOctets : Nat := 1024

/-- Accepts a key or reports that it is empty or too long. -/
def checkObjectKey (key : String) : Except Fault Unit :=
  if key = "" then .error (.invalidRequest "Object key must not be empty")
  else if maxKeyOctets < key.utf8ByteSize then .error (.invalidRequest "Your key is too long")
  else .ok ()

/-- A path without the slashes at its ends. -/
def trimSlashes (path : String) : String :=
  String.ofList (trim (· = '/') path.toList)

/-- The part of a file name after its last slash. -/
def baseName (fileName : List Char) : List Char :=
  match cutLast? '/' fileName with
  | some (_, base) => base
  | none => fileName

/-- What follows the last dot of the base name, if there is text on both sides of the dot. -/
def extension? (fileName : List Char) : Option (List Char) :=
  match cutLast? '.' (baseName fileName) with
  | some (stem, ext) => if stem = [] ∨ ext = [] then none else some ext
  | none => none

/-- The key of an upload: the day, the id, and the extension of the file name. -/
def uploadKey (fileName : String) (id : String) (now : Instant) : String :=
  String.ofList (now.datePath ++ '/' :: (id.toList ++
    match extension? fileName.toList with
    | some ext => '.' :: ext
    | none => []))

/-- The key of a copy that names no target. -/
def copyKey (source : String) (now : Instant) : String :=
  String.ofList ("copy_".toList ++ Decimal.ofInt now.seconds ++ '_' :: source.toList)

end ObjectAccess.Naming
