import ObjectAccess.Directory
import ObjectAccess.Text.Pieces

/-!
# Public paths

A registry says, for each bucket, which paths are open to everyone.  A pattern is a
text that occurs somewhere in the path, and `*` alone stands for every path.
-/

namespace ObjectAccess

set_option autoImplicit false

/-- Whether a pattern covers a path. -/
def covers (pattern path : String) : Bool :=
  pattern = "*" || Text.occursIn pattern.toList path.toList

/-- The patterns of each bucket. -/
structure Registry where
  patterns : Directory (List String)

namespace Registry

/-- The registry without patterns. -/
def empty : Registry := ⟨Directory.empty⟩

/-- The registry with the given lists; of lists for one bucket the last one counts. -/
def ofList (entries : List (String × List String)) : Registry := ⟨Directory.ofList entries⟩

/-- Replaces the list of a bucket. -/
def set (r : Registry) (bucket : String) (patterns : List String) : Registry :=
  ⟨r.patterns.insert bucket patterns⟩

/-- The list of a bucket; empty if it was never set. -/
def get (r : Registry) (bucket : String) : List String := (r.patterns.get? bucket).getD []

/-- The registry without the list of a bucket. -/
def remove (r : Registry) (bucket : String) : Registry := ⟨r.patterns.erase bucket⟩

/-- Whether a path is open to everyone. -/
def isPublic (r : Registry) (bucket path : String) : Bool :=
  (r.get bucket).any fun pattern => covers pattern path

end Registry

end ObjectAccess
