import ObjectAccess.Time.Calendar
import ObjectAccess.Time.Lifetime

/-!
# Instants

A clock reading: whole seconds from 1970-01-01T00:00:00 and nanoseconds, in the
years from -262143 to 262142.  A leap second is written as the last second of a
minute with a thousand million nanoseconds or more, so it lies between
`23:59:59.999…` and the next minute in the order of the pair.

The range and the place of leap seconds are part of the type, so every function
that could leave the range says so in its result.
-/

namespace ObjectAccess.Time

set_option autoImplicit false

/-- Nanoseconds in a second. -/
def nanosPerSecond : Nat := 1000000000

/-- Seconds in a day. -/
def secondsPerDay : Int := 86400

/-- The first second that can be represented, -262143-01-01T00:00:00. -/
def minSeconds : Int := -8334601228800

/-- The last second that can be represented, 262142-12-31T23:59:59. -/
def maxSeconds : Int := 8210266876799

/-- An instant of the clock. -/
structure Instant where
  seconds : Int
  nanos : Nat
  min_le : minSeconds ≤ seconds
  le_max : seconds ≤ maxSeconds
  nanos_lt : nanos < 2 * nanosPerSecond
  leap_ends_minute : nanosPerSecond ≤ nanos → seconds % 60 = 59
  deriving DecidableEq

namespace Instant

/-- The instant with these seconds and nanoseconds, if there is one. -/
def ofUnix? (seconds : Int) (nanos : Nat) : Option Instant :=
  if h : minSeconds ≤ seconds ∧ seconds ≤ maxSeconds ∧ nanos < 2 * nanosPerSecond ∧
      (nanosPerSecond ≤ nanos → seconds % 60 = 59) then
    some ⟨seconds, nanos, h.1, h.2.1, h.2.2.1, h.2.2.2⟩
  else none

/-- 1970-01-01T00:00:00. -/
def epoch : Instant :=
  ⟨0, 0, by decide, by decide, by decide, by decide⟩

/-- Whether the instant lies inside a leap second. -/
def isLeap (t : Instant) : Bool := nanosPerSecond ≤ t.nanos

/-- Whether `t` comes before `u`: the seconds decide, then the nanoseconds. -/
def isBefore (t u : Instant) : Bool :=
  t.seconds < u.seconds || (t.seconds = u.seconds && t.nanos < u.nanos)

/-- The date of an instant. -/
def date (t : Instant) : Date := Date.ofDays (t.seconds / secondsPerDay)

/-- The seconds since midnight. -/
def secondOfDay (t : Instant) : Nat := (t.seconds % secondsPerDay).toNat

/-- The instant a lifetime later, if it can be represented.  A lifetime that is too short
to leave a leap second only moves inside it. -/
def add? (t : Instant) (l : Lifetime) : Option Instant :=
  if nanosPerSecond ≤ t.nanos ∧ l.seconds = 0 ∧ t.nanos + l.nanos < 2 * nanosPerSecond then
    ofUnix? t.seconds (t.nanos + l.nanos)
  else
    let nanos := t.nanos % nanosPerSecond + l.nanos
    ofUnix? (t.seconds + (l.seconds : Int) + (nanos / nanosPerSecond : Nat))
      (nanos % nanosPerSecond)

/-- The seconds that a leap second between the two times of day adds to `t - u`. -/
def leapCorrection (t u : Instant) : Int :=
  if u.secondOfDay < t.secondOfDay ∧ u.isLeap then 1
  else if t.secondOfDay < u.secondOfDay ∧ t.isLeap then -1
  else 0

/-- The whole seconds from `u` to `t`, a fraction of either sign left out. -/
def wholeSecondsSince (t u : Instant) : Int :=
  let fraction : Int := (t.nanos : Int) - u.nanos
  let seconds := t.seconds - u.seconds + leapCorrection t u + fraction / nanosPerSecond
  if seconds < 0 ∧ fraction % nanosPerSecond ≠ 0 then seconds + 1 else seconds

end Instant

end ObjectAccess.Time
