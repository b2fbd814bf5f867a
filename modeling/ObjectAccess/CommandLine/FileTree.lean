import ObjectAccess.Text.Pieces
import ObjectAccess.Text.Utf8

/-!
# Trees of files

A tree of files has directories with named entries and files with a content.  A path
is walked from its first name to its last one: it starts at the root if a slash comes
first and in the working directory otherwise, a name is looked up in the directory that
was reached, one dot stays there, and two dots go to the directory above.

The first step that cannot be taken says why the path leads nowhere, so a long name
behind a directory that is missing is not noticed.
-/

namespace ObjectAccess.CommandLine

set_option autoImplicit false

open ObjectAccess.Text

/-! ## Failures -/

/-- Why a file cannot be read. -/
inductive FileError where
  | notFound
  | notPermitted
  | notDirectory
  | isDirectory
  | nameTooLong
  deriving DecidableEq, Repr

namespace FileError

/-- The number that a system has for a failure. -/
def number : FileError → Nat
  | .notFound => 2
  | .notPermitted => 13
  | .notDirectory => 20
  | .isDirectory => 21
  | .nameTooLong => 36

/-- What a failure is called. -/
def description : FileError → String
  | .notFound => "No such file or directory"
  | .notPermitted => "Permission denied"
  | .notDirectory => "Not a directory"
  | .isDirectory => "Is a directory"
  | .nameTooLong => "File name too long"

/-- The message of a failure. -/
def message (e : FileError) : String :=
  e.description ++ " (os error " ++ toString e.number ++ ")"

/-- All failures. -/
def all : List FileError := [.notFound, .notPermitted, .notDirectory, .isDirectory, .nameTooLong]

/-- The failure with a number. -/
def ofNumber? (n : Nat) : Option FileError := all.find? (·.number = n)

end FileError

/-! ## Trees -/

/-- What a name stands for. -/
inductive Entry where
  | file (content : String)
  | directory (entries : List (String × Entry))

/-- What is in a directory. -/
abbrev Entries := List (String × Entry)

/-- A tree of files and the place in it where relative paths start. -/
structure FileTree where
  root : Entries
  /-- What is in the working directory. -/
  working : Entries
  /-- The directories above the working directory, the nearest one first. -/
  above : List Entries := []

/-- The longest name in octets. -/
def longestName : Nat := 255

/-- The longest path in octets. -/
def longestPath : Nat := 4095

/-- The entry of a directory under a name. -/
def lookUp (entries : Entries) (name : List Char) : Except FileError Entry :=
  if (octets name).length > longestName then .error .nameTooLong
  else
    match entries.lookup (String.ofList name) with
    | some entry => .ok entry
    | none => .error .notFound

/-- Walks the names of a path from an entry, with the directories above it.  Nothing is above the
root but the root itself. -/
def walk (above : List Entries) : Entry → List (List Char) → Except FileError Entry
  | entry, [] => .ok entry
  | .file _, _ :: _ => .error .notDirectory
  | .directory entries, name :: names =>
    if name = [] ∨ name = ['.'] then walk above (.directory entries) names
    else if name = ['.', '.'] then
      match above with
      | [] => walk [] (.directory entries) names
      | nearest :: others => walk others (.directory nearest) names
    else
      match lookUp entries name with
      | .error e => .error e
      | .ok entry => walk (entries :: above) entry names

/-- The entry that a path leads to. -/
def FileTree.find (tree : FileTree) (path : String) : Except FileError Entry :=
  match path.toList with
  | [] => .error .notFound
  | c :: rest =>
    if path.utf8ByteSize > longestPath then .error .nameTooLong
    else if c = '/' then walk [] (.directory tree.root) (pieces '/' rest)
    else walk (tree.above ++ [tree.root]) (.directory tree.working) (pieces '/' (c :: rest))

/-- The content of the file at a path. -/
def FileTree.content (tree : FileTree) (path : String) : Except FileError String :=
  match tree.find path with
  | .ok (.file content) => .ok content
  | .ok (.directory _) => .error .isDirectory
  | .error e => .error e

/-! ## The usual tree -/

/-- The names of the directories that are in every root. -/
def rootNames : List String :=
  ["bin", "boot", "etc", "home", "lib", "media", "mnt", "opt", "proc", "root", "run", "sbin",
    "srv", "sys", "tmp", "usr", "var"]

/-- The devices that can be read: one is always empty, one is the standard input. -/
def devices (standardInput : String) : Entries :=
  [("null", .file ""), ("stdin", .file standardInput)]

/-- The usual tree, of which only the working directory has files of its own. -/
def FileTree.usual (standardInput : String) (working : Entries) : FileTree where
  root := ("dev", .directory (devices standardInput)) :: rootNames.map (·, .directory [])
  working := working
  above := [[]]

end ObjectAccess.CommandLine
