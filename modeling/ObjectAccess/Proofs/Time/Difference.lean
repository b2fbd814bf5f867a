import ObjectAccess.Proofs.Time.Addition

/-!
# Distances between instants

Outside leap seconds an instant has a place on a line of nanoseconds.  There the order of
instants is the order of their places (`isBefore_iff_place`), adding a lifetime is adding its
nanoseconds (`place_add?`), and the whole seconds between two instants are the distance of their
places in seconds, cut off toward zero (`wholeSecondsSince_eq_tdiv`).
-/

namespace ObjectAccess.Time.Instant

set_option autoImplicit false

variable {t u v : Instant}

/-! ## The order -/

theorem isBefore_iff : t.isBefore u = true ↔
    t.seconds < u.seconds ∨ (t.seconds = u.seconds ∧ t.nanos < u.nanos) := by
  simp only [isBefore, Bool.or_eq_true, Bool.and_eq_true, decide_eq_true_eq]

theorem isBefore_trans (h : t.isBefore u = true) (h' : u.isBefore v = true) :
    t.isBefore v = true := by
  rw [isBefore_iff] at *
  omega

/-- What comes after an instant comes after all that is not after the instant. -/
theorem isBefore_of_not_isBefore (h : t.isBefore u = false) (h' : t.isBefore v = true) :
    u.isBefore v = true := by
  rw [← Bool.not_eq_true] at h
  rw [isBefore_iff] at *
  omega

theorem nanos_lt_of_not_isLeap (h : t.isLeap = false) : t.nanos < nanosPerSecond :=
  Nat.lt_of_not_le (of_decide_eq_false h)

theorem isLeap_eq_false_of_lt (h : t.nanos < nanosPerSecond) : t.isLeap = false :=
  decide_eq_false (Nat.not_le_of_lt h)

/-! ## Places -/

/-- The nanoseconds from 1970-01-01T00:00:00 to an instant outside leap seconds. -/
def place (t : Instant) : Int := t.seconds * nanosPerSecond + t.nanos

theorem isBefore_iff_place (ht : t.isLeap = false) (hu : u.isLeap = false) :
    t.isBefore u = true ↔ t.place < u.place := by
  have hnanos := nanos_lt_of_not_isLeap ht
  have hnanos' := nanos_lt_of_not_isLeap hu
  rw [isBefore_iff]
  unfold place
  unfold nanosPerSecond at *
  omega

theorem ofUnix?_eq_some_iff {seconds : Int} {nanos : Nat} :
    ofUnix? seconds nanos = some t ↔ t.seconds = seconds ∧ t.nanos = nanos := by
  constructor
  · intro h
    unfold ofUnix? at h
    split at h
    · cases h
      exact ⟨rfl, rfl⟩
    · cases h
  · rintro ⟨rfl, rfl⟩
    rw [ofUnix?, dif_pos ⟨t.min_le, t.le_max, t.nanos_lt, t.leap_ends_minute⟩]

theorem eq_of_ofUnix? {seconds : Int} {nanos : Nat} (h : ofUnix? seconds nanos = some t) :
    t.seconds = seconds ∧ t.nanos = nanos :=
  ofUnix?_eq_some_iff.mp h

/-- Outside a leap second a lifetime is added as seconds and nanoseconds, with a carry. -/
theorem add?_of_not_isLeap (ht : t.isLeap = false) (l : Lifetime) :
    t.add? l = ofUnix? (t.seconds + l.seconds + ((t.nanos + l.nanos) / nanosPerSecond : Nat))
      ((t.nanos + l.nanos) % nanosPerSecond) := by
  have hnanos := nanos_lt_of_not_isLeap ht
  rw [add?, if_neg fun hleap => Nat.not_le_of_lt hnanos hleap.1, Nat.mod_eq_of_lt hnanos]

/-- A lifetime leads from an instant outside leap seconds to another such instant, as far away as
the lifetime is long. -/
theorem place_add? {l : Lifetime} (ht : t.isLeap = false) (h : t.add? l = some u) :
    u.isLeap = false ∧ u.place = t.place + l.seconds * nanosPerSecond + l.nanos := by
  rw [add?_of_not_isLeap ht] at h
  obtain ⟨hseconds, hfraction⟩ := eq_of_ofUnix? h
  refine ⟨isLeap_eq_false_of_lt (hfraction ▸ fraction_lt _), ?_⟩
  unfold place
  rw [hseconds, hfraction]
  unfold nanosPerSecond
  omega

/-- Some whole seconds before an instant there is another, unless the calendar starts later. -/
theorem exists_add?_eq (ht : t.isLeap = false) {seconds : Nat} (hpos : 0 < seconds)
    (hlow : minSeconds ≤ t.seconds - seconds) :
    ∃ early : Instant, early.isLeap = false ∧ early.add? ⟨seconds, 0⟩ = some t := by
  have hnanos := nanos_lt_of_not_isLeap ht
  have hhigh := t.le_max
  obtain ⟨early, -, hseconds, hfraction⟩ := ofUnix?_of_lt hnanos hlow (by omega)
  have hearly : early.nanos < nanosPerSecond := hfraction ▸ hnanos
  obtain ⟨later, hlater, hseconds', hfraction'⟩ := early.exists_add? hpos (by omega)
  refine ⟨early, isLeap_eq_false_of_lt hearly, ?_⟩
  rw [hlater]
  rw [Nat.mod_eq_of_lt hearly, hfraction] at hfraction'
  have hself : later.seconds = t.seconds := by omega
  cases later
  cases t
  cases hself
  cases hfraction'
  rfl

/-! ## Whole seconds -/

theorem leapCorrection_eq_zero (ht : t.isLeap = false) (hu : u.isLeap = false) :
    t.leapCorrection u = 0 := by
  simp [leapCorrection, ht, hu]

/-- **The whole seconds between two instants**: the fraction of their distance is cut off. -/
theorem wholeSecondsSince_eq_tdiv (ht : t.isLeap = false) (hu : u.isLeap = false) :
    t.wholeSecondsSince u = (t.place - u.place).tdiv nanosPerSecond := by
  have hsign : (nanosPerSecond : Int).sign = 1 := rfl
  have hdivides : (nanosPerSecond : Int) ∣ t.place - u.place ↔
      ((t.nanos : Int) - u.nanos) % nanosPerSecond = 0 := by
    unfold place nanosPerSecond
    omega
  rw [wholeSecondsSince, leapCorrection_eq_zero ht hu, Int.tdiv_eq_ediv, hsign]
  simp only [hdivides]
  unfold place nanosPerSecond
  split_ifs <;> omega

/-- At least as many seconds as there are whole ones lie between two instants, and not one more. -/
theorem wholeSecondsSince_bounds (ht : t.isLeap = false) (hu : u.isLeap = false)
    (hpos : 1 ≤ t.wholeSecondsSince u) :
    t.wholeSecondsSince u * nanosPerSecond ≤ t.place - u.place ∧
      t.place - u.place < (t.wholeSecondsSince u + 1) * nanosPerSecond := by
  rw [wholeSecondsSince_eq_tdiv ht hu] at *
  have hnonneg : 0 ≤ t.place - u.place := by
    by_contra hneg
    have hopposite : 0 ≤ (-(t.place - u.place)).tdiv nanosPerSecond :=
      Int.tdiv_nonneg (by omega) (by decide)
    rw [Int.neg_tdiv] at hopposite
    omega
  rw [Int.tdiv_eq_ediv_of_nonneg hnonneg] at *
  unfold nanosPerSecond
  omega

end ObjectAccess.Time.Instant
