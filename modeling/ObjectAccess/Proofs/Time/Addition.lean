import Mathlib
import ObjectAccess.Time.Instant

/-!
# Adding whole seconds

An instant that is some whole seconds later keeps the fraction of its second
(`add?_of_pos`), and a leap second is left after one of them.  There is no such instant
just if it would come after the last second of the calendar (`add?_eq_none_iff`).
-/

namespace ObjectAccess.Time.Instant

set_option autoImplicit false

/-- A fraction of a second is no leap second. -/
theorem fraction_lt (nanos : Nat) : nanos % nanosPerSecond < nanosPerSecond :=
  Nat.mod_lt _ (by decide)

/-- Outside a leap second, the seconds alone decide whether there is an instant. -/
theorem ofUnix?_of_lt {seconds : Int} {nanos : Nat} (hnanos : nanos < nanosPerSecond)
    (hlow : minSeconds ≤ seconds) (hhigh : seconds ≤ maxSeconds) :
    ∃ t : Instant, ofUnix? seconds nanos = some t ∧ t.seconds = seconds ∧ t.nanos = nanos := by
  have hrange : minSeconds ≤ seconds ∧ seconds ≤ maxSeconds ∧ nanos < 2 * nanosPerSecond ∧
      (nanosPerSecond ≤ nanos → seconds % 60 = 59) :=
    ⟨hlow, hhigh, by omega, fun h => absurd h (by omega)⟩
  refine ⟨⟨seconds, nanos, hrange.1, hrange.2.1, hrange.2.2.1, hrange.2.2.2⟩, ?_, rfl, rfl⟩
  rw [ofUnix?, dif_pos hrange]

theorem ofUnix?_eq_none_of_lt {seconds : Int} {nanos : Nat} (h : maxSeconds < seconds) :
    ofUnix? seconds nanos = none := by
  rw [ofUnix?, dif_neg]
  rintro ⟨-, hhigh, -⟩
  omega

/-- A whole number of seconds later the fraction is the same. -/
theorem add?_of_pos (t : Instant) {seconds : Nat} (h : 0 < seconds) :
    t.add? ⟨seconds, 0⟩ = ofUnix? (t.seconds + seconds) (t.nanos % nanosPerSecond) := by
  have hdiv : t.nanos % nanosPerSecond / nanosPerSecond = 0 :=
    Nat.div_eq_of_lt (fraction_lt t.nanos)
  have hmod : t.nanos % nanosPerSecond % nanosPerSecond = t.nanos % nanosPerSecond :=
    Nat.mod_mod _ _
  rw [add?, if_neg fun hleap => Nat.ne_of_gt h hleap.2.1]
  simp only [Nat.add_zero, hdiv, hmod, Int.natCast_zero, Int.add_zero]

/-- The instant that is some seconds later, unless it lies outside the calendar. -/
theorem exists_add? (t : Instant) {seconds : Nat} (h : 0 < seconds)
    (hhigh : t.seconds + seconds ≤ maxSeconds) :
    ∃ u : Instant, t.add? ⟨seconds, 0⟩ = some u ∧ u.seconds = t.seconds + seconds ∧
      u.nanos = t.nanos % nanosPerSecond := by
  have hlow := t.min_le
  rw [add?_of_pos t h]
  exact ofUnix?_of_lt (fraction_lt t.nanos) (by omega) hhigh

/-- There is no instant some seconds later just if the calendar ends before it. -/
theorem add?_eq_none_iff (t : Instant) {seconds : Nat} (h : 0 < seconds) :
    t.add? ⟨seconds, 0⟩ = none ↔ maxSeconds < t.seconds + seconds := by
  constructor
  · intro hnone
    rcases Int.lt_or_le maxSeconds (t.seconds + seconds) with hlt | hle
    · exact hlt
    · obtain ⟨u, hu, -⟩ := exists_add? t h hle
      rw [hu] at hnone
      cases hnone
  · intro hlt
    rw [add?_of_pos t h]
    exact ofUnix?_eq_none_of_lt hlt

end ObjectAccess.Time.Instant
