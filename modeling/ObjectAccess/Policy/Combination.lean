import ObjectAccess.Policy.Group

/-!
# Combinations of groups

The groups that occur in a specification form one of seven non-empty sets.  Each
has its own statements in a compiled policy.
-/

namespace ObjectAccess.Policy

set_option autoImplicit false

/-- A non-empty set of groups. -/
inductive Combination where
  | read
  | write
  | readWrite
  | readAndReadWrite
  | readWriteAndWrite
  | readAndWrite
  | readAndReadWriteAndWrite
  deriving DecidableEq, Repr

namespace Combination

/-- Whether a group belongs to the set. -/
def contains : Combination → Group → Bool
  | .read, g => g = .read
  | .write, g => g = .write
  | .readWrite, g => g = .readWrite
  | .readAndReadWrite, g => g = .read || g = .readWrite
  | .readWriteAndWrite, g => g = .readWrite || g = .write
  | .readAndWrite, g => g = .read || g = .write
  | .readAndReadWriteAndWrite, _ => true

/-- The names of the groups, in ascending order with `&` between them. -/
def key : Combination → String
  | .read => "read"
  | .write => "write"
  | .readWrite => "read+write"
  | .readAndReadWrite => "read&read+write"
  | .readWriteAndWrite => "read+write&write"
  | .readAndWrite => "read&write"
  | .readAndReadWriteAndWrite => "read&read+write&write"

/-- The set of the groups in a list, unless the list is empty. -/
def ofGroups? (groups : List Group) : Option Combination :=
  match decide (.read ∈ groups), decide (.readWrite ∈ groups), decide (.write ∈ groups) with
  | false, false, false => none
  | true, false, false => some .read
  | false, false, true => some .write
  | false, true, false => some .readWrite
  | true, true, false => some .readAndReadWrite
  | false, true, true => some .readWriteAndWrite
  | true, false, true => some .readAndWrite
  | true, true, true => some .readAndReadWriteAndWrite

end Combination

end ObjectAccess.Policy
