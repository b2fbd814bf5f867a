/-!
# Permission groups

A group says what anyone may do with the objects under its paths: read them, write
them, or both.  Its name is how a specification spells it; the names are listed in
ascending order.
-/

namespace ObjectAccess.Policy

set_option autoImplicit false

/-- What is permitted on a set of paths. -/
inductive Group where
  /-- Objects can be listed and downloaded. -/
  | read
  /-- Objects can be listed, downloaded, uploaded and deleted. -/
  | readWrite
  /-- Objects can be uploaded and deleted, but neither listed nor downloaded. -/
  | write
  deriving DecidableEq, Repr

namespace Group

/-- All groups, in ascending order of their names. -/
def all : List Group := [.read, .readWrite, .write]

/-- How a specification spells the group. -/
def name : Group → String
  | .read => "read"
  | .readWrite => "read+write"
  | .write => "write"

/-- The group that a name spells. -/
def ofName? (name : String) : Option Group := all.find? fun g => g.name = name

end Group

end ObjectAccess.Policy
