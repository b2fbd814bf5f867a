import Mathlib
import ObjectAccess.Time.Calendar

/-!
# Days and dates correspond

Counting days up to a date undoes finding the date of a day (`toDays_ofDays`), and
every day has a date of the calendar (`exists_ofDays`).

A day is found in three steps: its era of 146097 days, its year in the era, and its
month in the year, which starts in March.  The year is found by a division by 365
after the leap days that have passed are taken off, which is right on every day of
the era (`era_bounds`); a year has a day 365 only if its February is a leap one.
-/

namespace ObjectAccess.Time

set_option autoImplicit false

/-! ## Years of an era -/

/-- The year of an era that a day of it lies in. -/
def yearOfEra (dayOfEra : Nat) : Nat :=
  (dayOfEra - dayOfEra / 1460 + dayOfEra / 36524 - dayOfEra / 146096) / 365

/-- The days of an era before a year of it. -/
def daysBefore (yearOfEra : Nat) : Nat := 365 * yearOfEra + yearOfEra / 4 - yearOfEra / 100

/-- What a division says of the year of a day. -/
structure YearBounds (dayOfEra year : Nat) : Prop where
  year_lt : year < 400
  started : daysBefore year ≤ dayOfEra
  not_over : dayOfEra ≤ daysBefore year + 365
  leap_of_last : dayOfEra = daysBefore year + 365 →
    (year + 1) % 4 = 0 ∧ ((year + 1) % 100 ≠ 0 ∨ (year + 1) % 400 = 0)

/-- Before the last day of an era, the centuries of the year are those of the day. -/
theorem century_yearOfEra {dayOfEra : Nat} (h : dayOfEra < 146096) :
    yearOfEra dayOfEra / 100 = dayOfEra / 36524 := by
  have hlast : dayOfEra / 146096 = 0 := Nat.div_eq_of_lt h
  have hcentury : dayOfEra / 36524 = 0 ∨ dayOfEra / 36524 = 1 ∨ dayOfEra / 36524 = 2 ∨
      dayOfEra / 36524 = 3 := by omega
  rw [yearOfEra, hlast, Nat.sub_zero]
  rcases hcentury with hcentury | hcentury | hcentury | hcentury <;> rw [hcentury] <;> omega

/-- A day lies in the year that the division finds. -/
theorem era_bounds {dayOfEra : Nat} (h : dayOfEra < 146097) :
    YearBounds dayOfEra (yearOfEra dayOfEra) := by
  -- The last day of an era is the only one for which the last correction counts.
  rcases Nat.lt_or_eq_of_le (Nat.le_of_lt_succ h) with hlt | rfl
  · have hcentury := century_yearOfEra hlt
    have hlast : dayOfEra / 146096 = 0 := Nat.div_eq_of_lt hlt
    have hyear : yearOfEra dayOfEra =
        (dayOfEra - dayOfEra / 1460 + dayOfEra / 36524) / 365 := by
      rw [yearOfEra, hlast, Nat.sub_zero]
    generalize yearOfEra dayOfEra = year at hcentury hyear
    -- The year is one of five around four times the leap cycles that have passed.
    generalize hcycles : dayOfEra / 1460 = cycles at hyear
    obtain ⟨offset, hoffset⟩ : ∃ offset, year + 1 = 4 * cycles + offset :=
      ⟨year + 1 - 4 * cycles, by omega⟩
    have hoffset4 : offset = 0 ∨ offset = 1 ∨ offset = 2 ∨ offset = 3 ∨ offset = 4 := by omega
    have hquarter : year / 4 = (4 * cycles + offset - 1) / 4 := by
      rw [← hoffset, Nat.add_sub_cancel]
    have key : year < 400 ∧ 365 * year + year / 4 - year / 100 ≤ dayOfEra ∧
        dayOfEra ≤ 365 * year + year / 4 - year / 100 + 365 ∧
        (dayOfEra = 365 * year + year / 4 - year / 100 + 365 →
          (year + 1) % 4 = 0 ∧ ((year + 1) % 100 ≠ 0 ∨ (year + 1) % 400 = 0)) := by
      rw [hquarter]
      rcases hoffset4 with rfl | rfl | rfl | rfl | rfl <;> omega
    exact ⟨key.1, key.2.1, key.2.2.1, key.2.2.2⟩
  · exact ⟨by decide, by decide, by decide, by decide⟩

/-! ## Months of a year -/

/-- The month of a day in a year that starts in March, March being 0. -/
def marchMonth (dayOfYear : Nat) : Nat := (5 * dayOfYear + 2) / 153

/-- The days of a year that starts in March before a month of it. -/
def daysBeforeMonth (march : Nat) : Nat := (153 * march + 2) / 5

theorem marchMonth_le {dayOfYear : Nat} (h : dayOfYear ≤ 365) : marchMonth dayOfYear ≤ 11 := by
  unfold marchMonth
  omega

theorem daysBeforeMonth_le (dayOfYear : Nat) :
    daysBeforeMonth (marchMonth dayOfYear) ≤ dayOfYear := by
  unfold daysBeforeMonth marchMonth
  omega

/-- The number of a month in a year that starts in January. -/
def civilMonth (march : Nat) : Nat := if march < 10 then march + 3 else march - 9

/-- A month that is not February has at least 30 days, or 31 where the year says so. -/
theorem daysBeforeMonth_succ {march : Nat} (h : march < 11) (year : Int) :
    daysBeforeMonth (march + 1) = daysBeforeMonth march + daysInMonth year (civilMonth march) := by
  have hmarch : march = 0 ∨ march = 1 ∨ march = 2 ∨ march = 3 ∨ march = 4 ∨ march = 5 ∨
      march = 6 ∨ march = 7 ∨ march = 8 ∨ march = 9 ∨ march = 10 := by omega
  rcases hmarch with rfl | rfl | rfl | rfl | rfl | rfl | rfl | rfl | rfl | rfl | rfl <;> rfl

/-- A day comes before the next month starts. -/
theorem lt_daysBeforeMonth_succ (dayOfYear : Nat) :
    dayOfYear < daysBeforeMonth (marchMonth dayOfYear + 1) := by
  unfold daysBeforeMonth marchMonth
  omega

/-- A day of a month is one that the month has. -/
theorem day_le_daysInMonth {dayOfYear : Nat} {year : Int} (h : dayOfYear ≤ 365)
    (hleap : dayOfYear = 365 → isLeapYear year = true) :
    dayOfYear - daysBeforeMonth (marchMonth dayOfYear) + 1 ≤
      daysInMonth year (civilMonth (marchMonth dayOfYear)) := by
  have hmonth := marchMonth_le h
  have hstart := daysBeforeMonth_le dayOfYear
  rcases Nat.lt_or_eq_of_le hmonth with hother | hfebruary
  · have hend := lt_daysBeforeMonth_succ dayOfYear
    rw [daysBeforeMonth_succ hother year] at hend
    omega
  · have hfirst : daysBeforeMonth 11 = 337 := rfl
    have hdays : daysInMonth year (civilMonth 11) = if isLeapYear year then 29 else 28 := rfl
    rw [hfebruary, hfirst] at hstart ⊢
    rw [hdays]
    split
    · omega
    · next hcommon =>
        have hne : dayOfYear ≠ 365 := fun e => hcommon (hleap e)
        omega

theorem daysInMonth_le (year : Int) (month : Nat) : daysInMonth year month ≤ 31 := by
  unfold daysInMonth
  split
  · split
    · decide
    · decide
  · split
    · decide
    · decide

/-! ## Days -/

/-- The date of a day in terms of its era, year and month. -/
theorem ofDays_eq {days era : Int} {dayOfEra : Nat}
    (h : days + 719468 = era * 146097 + (dayOfEra : Int)) (hlt : dayOfEra < 146097) :
    Date.ofDays days =
      let march := marchMonth (dayOfEra - daysBefore (yearOfEra dayOfEra))
      let year := era * 400 + (yearOfEra dayOfEra : Int)
      ⟨if civilMonth march ≤ 2 then year + 1 else year, civilMonth march,
        dayOfEra - daysBefore (yearOfEra dayOfEra) - daysBeforeMonth march + 1⟩ := by
  have hera : (days + 719468) / 146097 = era := by omega
  have hday : ((days + 719468) % 146097).toNat = dayOfEra := by omega
  rw [Date.ofDays, hera, hday]
  rfl

/-- Every day is a day of an era. -/
theorem exists_era (days : Int) : ∃ (era : Int) (dayOfEra : Nat),
    days + 719468 = era * 146097 + (dayOfEra : Int) ∧ dayOfEra < 146097 :=
  ⟨(days + 719468) / 146097, ((days + 719468) % 146097).toNat, by omega, by omega⟩

/-- Every day has a date of the calendar. -/
theorem exists_ofDays (days : Int) : (Date.ofDays days).exists = true := by
  obtain ⟨era, dayOfEra, hdays, hlt⟩ := exists_era days
  obtain ⟨hyear, hstarted, hnotOver, hleapOfLast⟩ := era_bounds hlt
  rw [ofDays_eq hdays hlt]
  generalize yearOfEra dayOfEra = year at *
  obtain ⟨dayOfYear, hday⟩ : ∃ dayOfYear, dayOfEra = daysBefore year + dayOfYear :=
    ⟨dayOfEra - daysBefore year, by omega⟩
  rw [hday, Nat.add_sub_cancel_left]
  have hle : dayOfYear ≤ 365 := by omega
  have hmonth := marchMonth_le hle
  have hcivil : 1 ≤ civilMonth (marchMonth dayOfYear) ∧
      civilMonth (marchMonth dayOfYear) ≤ 12 := by
    unfold civilMonth
    split <;> omega
  -- Only February asks for the year, and then the civil year is the one after the March year.
  have hleap : dayOfYear = 365 → isLeapYear (era * 400 + (year : Int) + 1) = true := by
    intro h
    have hrule := hleapOfLast (by omega)
    simp only [isLeapYear, Bool.and_eq_true, Bool.or_eq_true, decide_eq_true_eq]
    omega
  have hdayLe := day_le_daysInMonth hle hleap
  have hsame : daysInMonth (if civilMonth (marchMonth dayOfYear) ≤ 2 then
      era * 400 + (year : Int) + 1 else era * 400 + (year : Int))
        (civilMonth (marchMonth dayOfYear)) =
      daysInMonth (era * 400 + (year : Int) + 1) (civilMonth (marchMonth dayOfYear)) := by
    split
    · rfl
    · next hlate =>
        have hne : civilMonth (marchMonth dayOfYear) ≠ 2 := by omega
        simp only [daysInMonth, if_neg hne]
  simp only [Date.exists, hsame, Bool.and_eq_true, decide_eq_true_eq]
  exact ⟨⟨⟨hcivil.1, hcivil.2⟩, by omega⟩, hdayLe⟩

/-- Counting the days up to the date of a day gives the day back. -/
theorem toDays_ofDays (days : Int) : (Date.ofDays days).toDays = days := by
  obtain ⟨era, dayOfEra, hdays, hlt⟩ := exists_era days
  obtain ⟨hyear, hstarted, hnotOver, -⟩ := era_bounds hlt
  rw [ofDays_eq hdays hlt]
  generalize yearOfEra dayOfEra = year at *
  obtain ⟨dayOfYear, hday⟩ : ∃ dayOfYear, dayOfEra = daysBefore year + dayOfYear :=
    ⟨dayOfEra - daysBefore year, by omega⟩
  rw [hday, Nat.add_sub_cancel_left]
  have hmonth := marchMonth_le (show dayOfYear ≤ 365 by omega)
  have hstart := daysBeforeMonth_le dayOfYear
  generalize marchMonth dayOfYear = march at *
  have hmarch : (civilMonth march + 9) % 12 = march := by
    unfold civilMonth
    split <;> omega
  have hadjusted : (if civilMonth march ≤ 2 then
      (if civilMonth march ≤ 2 then era * 400 + (year : Int) + 1 else era * 400 + (year : Int)) - 1
      else if civilMonth march ≤ 2 then era * 400 + (year : Int) + 1
        else era * 400 + (year : Int)) = era * 400 + (year : Int) := by
    split <;> omega
  have hera : (era * 400 + (year : Int)) / 400 = era := by omega
  have hyearOfEra : (era * 400 + (year : Int)) % 400 = (year : Int) := by omega
  have hbefore : ((daysBefore year : Nat) : Int) = (year : Int) * 365 + (year : Int) / 4
      - (year : Int) / 100 := by
    unfold daysBefore
    omega
  have hback : (daysBeforeMonth march : Nat) + (dayOfYear - daysBeforeMonth march + 1) - 1 =
      dayOfYear := by omega
  rw [Date.toDays]
  simp only [hadjusted, hera, hyearOfEra, hmarch]
  change era * 146097 + ((year : Int) * 365 + (year : Int) / 4 - (year : Int) / 100 +
    (((daysBeforeMonth march) + (dayOfYear - daysBeforeMonth march + 1) - 1 : Nat) : Int))
      - 719468 = days
  rw [hback, ← hbefore]
  omega

/-- A day comes before the end of the era that its year lies in. -/
theorem days_lt_of_year (days : Int) :
    days + 719468 < ((Date.ofDays days).year / 400 + 1) * 146097 := by
  obtain ⟨era, dayOfEra, hdays, hlt⟩ := exists_era days
  have hyear : era * 400 ≤ (Date.ofDays days).year := by
    rw [ofDays_eq hdays hlt]
    simp only
    split <;> omega
  omega

end ObjectAccess.Time
