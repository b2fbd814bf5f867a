import ObjectAccess.Directory
import ObjectAccess.Json.Printer
import ObjectAccess.Json.Record
import ObjectAccess.Policy.Combination

/-!
# Permission specifications

A specification is a directory from group names to lists of paths.  Names that are
no group are kept: they make the specification unsupported, and they show in its
key.  It is read from and written as a JSON object with its names in ascending
order, and the two undo each other because the directory is all there is to it.
-/

namespace ObjectAccess.Policy

set_option autoImplicit false

open ObjectAccess.Json

/-- Paths by group name. -/
structure Specification where
  entries : Directory (List String)

namespace Specification

/-- The specification without groups. -/
def empty : Specification := ⟨Directory.empty⟩

/-- Sets the paths of a group. -/
def insert (s : Specification) (g : Group) (paths : List String) : Specification :=
  ⟨s.entries.insert g.name paths⟩

/-- Whether a group is present, with or without paths. -/
def contains (s : Specification) (g : Group) : Bool := s.entries.contains g.name

/-- The paths of a group; none if it is absent. -/
def paths (s : Specification) (g : Group) : List String := (s.entries.get? g.name).getD []

/-- The groups that are present, in ascending order of their names. -/
def groups (s : Specification) : List Group := Group.all.filter s.contains

/-- The names that are no group. -/
def unrecognized (s : Specification) : List String :=
  s.entries.names.filter fun name => (Group.ofName? name).isNone

/-- Whether there is no name at all. -/
def isEmpty (s : Specification) : Bool := s.entries.isEmpty

/-- The set of the groups, if there is a group and no other name. -/
def combination? (s : Specification) : Option Combination :=
  if s.unrecognized.isEmpty then Combination.ofGroups? s.groups else none

/-- All names in ascending order with `&` between them. -/
def key (s : Specification) : String := String.intercalate "&" s.entries.names

/-- The specification as JSON. -/
def toJson (s : Specification) : Value :=
  .object (s.entries.entries.map fun e => (e.1, .texts e.2))

/-- The text of a specification. -/
def text (s : Specification) : String := s.toJson.compactText

/-- Reads a specification from its text; of entries with one name the last one counts. -/
def ofText (text : String) : Except String Specification :=
  (decodeText (dictionary (Json.list string)) text).map fun entries => ⟨Directory.ofList entries⟩

end Specification

end ObjectAccess.Policy
