import ObjectAccess.Proofs.Time.Difference

/-!
# Lifetimes and the calendar

A count of seconds that is too large for a lifetime is cut to the longest lifetime.  No harm is
done by that: the longest lifetime leads out of the calendar from every instant, as the true count
would, so the sum of an instant and a lifetime of some seconds is exact
(`add?_ofSeconds_eq_some_iff`).  The distance from the instant to the sum gives the seconds back
(`wholeSecondsSince_add`).  Nothing in this arithmetic comes near the end of a word of the machine
(`Fits.of_ofSeconds`).
-/

namespace ObjectAccess.Time

set_option autoImplicit false

namespace Lifetime

theorem ofSeconds_of_le {seconds : Nat} (h : seconds ≤ longest.seconds) :
    ofSeconds seconds = ⟨seconds, 0⟩ := by
  rw [ofSeconds, ofSeconds?, if_pos h, Option.getD_some]

theorem ofSeconds_of_lt {seconds : Nat} (h : longest.seconds < seconds) :
    ofSeconds seconds = longest := by
  rw [ofSeconds, ofSeconds?, if_neg (Nat.not_le_of_lt h), Option.getD_none]

/-- The nanoseconds of a lifetime. -/
def length (l : Lifetime) : Nat := l.seconds * nanosPerSecond + l.nanos

/-- A lifetime of some seconds is not longer than the longest one. -/
theorem ofSeconds_le (seconds : Nat) :
    (ofSeconds seconds).seconds ≤ longest.seconds ∧
      (ofSeconds seconds).length ≤ longest.length ∧ (ofSeconds seconds).nanos < nanosPerSecond := by
  rcases Nat.lt_or_ge longest.seconds seconds with hlong | hshort
  · rw [ofSeconds_of_lt hlong]
    exact ⟨le_rfl, le_rfl, by decide⟩
  · rw [ofSeconds_of_le hshort]
    exact ⟨hshort, Nat.add_le_add (Nat.mul_le_mul_right _ hshort) (Nat.zero_le _),
      Nat.zero_lt_succ _⟩

end Lifetime

namespace Instant

variable {t u : Instant}

/-! ## Sums -/

/-- Outside a leap second whole seconds are added to the seconds, also none at all. -/
theorem add?_whole (ht : t.isLeap = false) (seconds : Nat) :
    t.add? ⟨seconds, 0⟩ = ofUnix? (t.seconds + seconds) t.nanos := by
  have hnanos := nanos_lt_of_not_isLeap ht
  rw [add?_of_not_isLeap ht, Nat.add_zero, Nat.mod_eq_of_lt hnanos, Nat.div_eq_of_lt hnanos,
    Int.natCast_zero, Int.add_zero]

/-- A lifetime leads out of the calendar if its seconds alone do. -/
theorem add?_eq_none_of_lt (ht : t.isLeap = false) {l : Lifetime}
    (h : maxSeconds < t.seconds + l.seconds) : t.add? l = none := by
  rw [add?_of_not_isLeap ht]
  apply ofUnix?_eq_none_of_lt
  unfold nanosPerSecond
  omega

/-- The calendar is shorter than the longest lifetime. -/
theorem maxSeconds_lt_add_longest (t : Instant) :
    maxSeconds < t.seconds + Lifetime.longest.seconds := by
  have hlow := t.min_le
  have hlongest : maxSeconds - minSeconds < Lifetime.longest.seconds := by decide
  omega

/-- **The sum is exact**: a lifetime of some seconds leads to the instant so many seconds later,
and nowhere if there is none. -/
theorem add?_ofSeconds_eq_some_iff (ht : t.isLeap = false) {seconds : Nat} :
    t.add? (.ofSeconds seconds) = some u ↔
      u.seconds = t.seconds + seconds ∧ u.nanos = t.nanos := by
  rcases Nat.lt_or_ge Lifetime.longest.seconds seconds with hlong | hshort
  · -- Neither the longest lifetime nor the true one leads to an instant.
    have hout := t.maxSeconds_lt_add_longest
    rw [Lifetime.ofSeconds_of_lt hlong, add?_eq_none_of_lt ht hout]
    have hhigh := u.le_max
    constructor
    · intro hsome
      cases hsome
    · rintro ⟨hseconds, -⟩
      omega
  · rw [Lifetime.ofSeconds_of_le hshort, add?_whole ht, ofUnix?_eq_some_iff]

/-- Some whole seconds later there is an instant just if the calendar has not ended. -/
theorem exists_later_iff (ht : t.isLeap = false) {seconds : Nat} :
    (∃ u : Instant, u.seconds = t.seconds + seconds ∧ u.nanos = t.nanos) ↔
      t.seconds + seconds ≤ maxSeconds := by
  constructor
  · rintro ⟨u, hu, -⟩
    exact hu ▸ u.le_max
  · intro hhigh
    have hlow := t.min_le
    obtain ⟨u, -, hu⟩ := ofUnix?_of_lt (nanos_lt_of_not_isLeap ht) (by omega) hhigh
    exact ⟨u, hu⟩

/-! ## Distances -/

/-- The distance to the sum is what was added. -/
theorem wholeSecondsSince_add (ht : t.isLeap = false) {seconds : Nat}
    (hseconds : u.seconds = t.seconds + seconds) (hnanos : u.nanos = t.nanos) :
    u.wholeSecondsSince t = seconds := by
  have hu : u.isLeap = false := isLeap_eq_false_of_lt (hnanos ▸ nanos_lt_of_not_isLeap ht)
  have hdistance : u.place - t.place = seconds * nanosPerSecond := by
    unfold place
    rw [hseconds, hnanos, Int.add_mul]
    omega
  rw [wholeSecondsSince_eq_tdiv hu ht, hdistance, Int.mul_tdiv_cancel _ (by decide)]

/-- Any two instants are less than the longest lifetime apart. -/
theorem natAbs_place_sub_lt (t u : Instant) :
    (t.place - u.place).natAbs < Lifetime.longest.length := by
  have ht := And.intro t.min_le t.le_max
  have hu := And.intro u.min_le u.le_max
  have ht' := t.nanos_lt
  have hu' := u.nanos_lt
  have hlongest : Lifetime.longest.length = 9223372036854775807000000 := by decide
  rw [hlongest]
  unfold place
  unfold minSeconds maxSeconds nanosPerSecond at *
  omega

end Instant

/-! ## The range of the machine -/

/-- Whether the arithmetic of a lifetime fits the machine: the lifetime and the distances between
instants are lengths of time, and sums and differences of seconds are words of 64 bits, together
with the seconds that fractions and leap seconds may carry. -/
structure Fits (now : Instant) (l : Lifetime) : Prop where
  lifetime : l.length ≤ Lifetime.longest.length ∧ l.nanos < nanosPerSecond
  sum : (now.seconds + l.seconds).natAbs + 1 < 2 ^ 63
  distance : ∀ t : Instant, (t.place - now.place).natAbs < Lifetime.longest.length
  difference : ∀ t : Instant, (t.seconds - now.seconds).natAbs + 3 < 2 ^ 63

theorem Fits.of_ofSeconds (now : Instant) (seconds : Nat) : Fits now (.ofSeconds seconds) := by
  have hlongest : Lifetime.longest.seconds = 9223372036854775 := by decide
  obtain ⟨hseconds, hlength⟩ := Lifetime.ofSeconds_le seconds
  have hnow := And.intro now.min_le now.le_max
  unfold minSeconds maxSeconds at hnow
  refine ⟨hlength, by omega, fun t => t.natAbs_place_sub_lt now, fun t => ?_⟩
  have ht := And.intro t.min_le t.le_max
  unfold minSeconds maxSeconds at ht
  omega

end ObjectAccess.Time
