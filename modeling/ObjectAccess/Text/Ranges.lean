/-!
# Sets of characters as ranges

A property of characters is a list of inclusive ranges of code points.
-/

namespace ObjectAccess.Text

set_option autoImplicit false

/-- Inclusive ranges of code points. -/
abbrev Ranges := List (Nat × Nat)

/-- Whether a character lies in one of the ranges. -/
def Ranges.has (ranges : Ranges) (c : Char) : Bool :=
  ranges.any fun (low, high) => low ≤ c.toNat && c.toNat ≤ high

end ObjectAccess.Text
