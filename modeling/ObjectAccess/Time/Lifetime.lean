/-!
# Lifetimes

How long a signed URL stays valid when nothing else is asked for: a length of time
that is never negative.  It is given in whole seconds; a count too large for
the clock's arithmetic stands for the longest lifetime there is.
-/

namespace ObjectAccess.Time

set_option autoImplicit false

/-- A length of time: whole seconds and nanoseconds below one second. -/
structure Lifetime where
  seconds : Nat
  nanos : Nat
  deriving DecidableEq, Repr

namespace Lifetime

/-- The most milliseconds a length of time may have. -/
def maxMillis : Nat := 9223372036854775807

/-- The longest lifetime, a whole number of milliseconds. -/
def longest : Lifetime := ⟨maxMillis / 1000, maxMillis % 1000 * 1000000⟩

/-- That many seconds, if they are not longer than the longest lifetime. -/
def ofSeconds? (seconds : Nat) : Option Lifetime :=
  if seconds ≤ longest.seconds then some ⟨seconds, 0⟩ else none

/-- That many seconds, or the longest lifetime. -/
def ofSeconds (seconds : Nat) : Lifetime := (ofSeconds? seconds).getD longest

/-- Nine digits without the zeros at their end. -/
def fractionText (nanos : Nat) : String :=
  let digits := (toString (1000000000 + nanos)).toList.drop 1
  String.ofList (digits.reverse.dropWhile (· = '0')).reverse

/-- The text of a lifetime: `PT5S`, `PT0.5S`, and `P0D` for none at all. -/
def text (l : Lifetime) : String :=
  if l.seconds = 0 ∧ l.nanos = 0 then "P0D"
  else if l.nanos = 0 then "PT" ++ toString l.seconds ++ "S"
  else "PT" ++ toString l.seconds ++ "." ++ fractionText l.nanos ++ "S"

end Lifetime

end ObjectAccess.Time
