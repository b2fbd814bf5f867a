import ObjectAccess.Proofs.Text.Decimal
import ObjectAccess.Proofs.Time.Calendar
import ObjectAccess.Time.Stamp

/-!
# Stamps are read back

The reader of signing times gives back the instant that was written, without the
fraction of its second (`ofStamp?_stamp`), if its year has four digits.  A leap second
stays one.  The parts of a stamp have fixed widths, so each number ends where the next
one starts although nothing stands between them.
-/

namespace ObjectAccess.Time

set_option autoImplicit false

open ObjectAccess.Text

/-! ## Numbers of a fixed width -/

theorem takeNumber?_padded {width n : Nat} (hwidth : 0 < width) (hn : n < 10 ^ width)
    (rest : List Char) : takeNumber? width (Decimal.padded width n ++ rest) = some (n, rest) := by
  have hlength : (Decimal.padded width n).length = width := Decimal.length_padded hwidth hn
  have htake : (Decimal.padded width n ++ rest).take width = Decimal.padded width n :=
    List.take_left' hlength
  have hrun : (Decimal.padded width n).takeWhile Char.isDigit = Decimal.padded width n :=
    List.takeWhile_eq_self_iff.mpr fun _ hc => Decimal.isDigit_of_mem_padded hc
  have hfull : (Decimal.padded width n).isEmpty = false := by
    simp [Decimal.padded_ne_nil]
  rw [takeNumber?, htake, hrun]
  simp [hfull, Decimal.value_padded]

/-- A padded number starts with a digit. -/
theorem exists_digit_padded (width n : Nat) : ∃ c rest, Decimal.padded width n = c :: rest ∧
    c.isDigit = true := by
  obtain ⟨c, rest, h⟩ := List.exists_cons_of_ne_nil (Decimal.padded_ne_nil width n)
  exact ⟨c, rest, h, Decimal.isDigit_of_mem_padded (h ▸ List.mem_cons_self ..)⟩

theorem dropWhile_isBlank_padded (width n : Nat) (rest : List Char) :
    (Decimal.padded width n ++ rest).dropWhile isBlank = Decimal.padded width n ++ rest := by
  obtain ⟨c, others, h, hc⟩ := exists_digit_padded width n
  rw [h, List.cons_append, List.dropWhile_cons, Decimal.isBlank_of_isDigit hc]
  rfl

theorem takeField?_twoDigits {n : Nat} (hn : n < 100) (rest : List Char) :
    takeField? (twoDigits n ++ rest) = some (n, rest) := by
  rw [takeField?, twoDigits, dropWhile_isBlank_padded,
    takeNumber?_padded (by decide) (by simpa using hn)]

theorem takeYear?_yearText {year : Int} (hlow : 0 ≤ year) (hhigh : year ≤ 9999)
    (rest : List Char) : takeYear? (yearText year ++ rest) = some (year, rest) := by
  have hself : (year.toNat : Int) = year := Int.toNat_of_nonneg hlow
  have hread : takeNumber? 4 (Decimal.padded 4 year.toNat ++ rest) = some (year.toNat, rest) :=
    takeNumber?_padded (by decide) (by omega) rest
  obtain ⟨c, others, h, hc⟩ := exists_digit_padded 4 year.toNat
  rw [yearText, if_pos ⟨hlow, hhigh⟩, takeYear?, dropWhile_isBlank_padded]
  split
  · next hminus =>
      rw [h] at hminus
      exact absurd (List.cons.inj hminus).1 (Decimal.ne_of_isDigit hc (by decide))
  · next hplus =>
      rw [h] at hplus
      exact absurd (List.cons.inj hplus).1 (Decimal.ne_of_isDigit hc (by decide))
  · rw [hread]
    simp [hself]

theorem yearText_of_not {year : Int} (h : ¬(0 ≤ year ∧ year ≤ 9999)) :
    ∃ sign, (sign = '-' ∨ sign = '+') ∧ yearText year = sign :: Decimal.padded 4 year.natAbs := by
  rw [yearText, if_neg h]
  split
  · exact ⟨'-', Or.inl rfl, rfl⟩
  · exact ⟨'+', Or.inr rfl, rfl⟩

/-- A signed year takes all digits that follow it. -/
theorem takeYear?_sign {sign : Char} (h : sign = '-' ∨ sign = '+') {digits : List Char}
    (hdigits : ∀ c ∈ digits, c.isDigit = true) (hne : digits ≠ []) {c : Char}
    (hc : c.isDigit = false) (rest : List Char) :
    ∃ year, takeYear? (sign :: (digits ++ c :: rest)) = some (year, c :: rest) := by
  have htake : (digits ++ c :: rest).take (digits ++ c :: rest).length = digits ++ c :: rest :=
    List.take_length
  have hrun : (digits ++ c :: rest).takeWhile Char.isDigit = digits := by
    rw [List.takeWhile_append_of_pos hdigits, List.takeWhile_cons_of_neg (by simp [hc]),
      List.append_nil]
  have hnumber : takeNumber? (digits ++ c :: rest).length (digits ++ c :: rest) =
      some (Decimal.value digits, c :: rest) := by
    rw [takeNumber?, htake, hrun]
    simp [hne]
  rcases h with rfl | rfl
  · exact ⟨_, by rw [takeYear?, List.dropWhile_cons_of_neg (by decide)]; simp only [hnumber]; rfl⟩
  · exact ⟨_, by rw [takeYear?, List.dropWhile_cons_of_neg (by decide)]; simp only [hnumber]; rfl⟩

/-! ## Instants -/

namespace Instant

/-- The instant without the fraction of its second. -/
def wholeSecond (t : Instant) : Instant where
  seconds := t.seconds
  nanos := if t.isLeap then nanosPerSecond else 0
  min_le := t.min_le
  le_max := t.le_max
  nanos_lt := by split <;> decide
  leap_ends_minute := by
    intro h
    refine t.leap_ends_minute ?_
    split at h
    · next hleap => simpa [isLeap] using hleap
    · exact absurd h (by decide)

theorem wholeSecond_nanos {t : Instant} (h : t.isLeap = false) : t.wholeSecond.nanos = 0 := by
  simp [wholeSecond, h]

@[simp] theorem isLeap_wholeSecond (t : Instant) : t.wholeSecond.isLeap = t.isLeap := by
  have hnanos : t.wholeSecond.nanos = if t.isLeap then nanosPerSecond else 0 := rfl
  rw [isLeap, hnanos]
  cases t.isLeap <;> rfl

/-- The fraction of a second is not written. -/
@[simp] theorem stamp_wholeSecond (t : Instant) : t.wholeSecond.stamp = t.stamp := by
  rw [stamp, stamp, writtenSecond, writtenSecond, isLeap_wholeSecond]
  rfl

theorem ofUnix?_wholeSecond (t : Instant) :
    ofUnix? t.seconds (if t.isLeap then nanosPerSecond else 0) = some t.wholeSecond := by
  rw [ofUnix?, dif_pos ⟨t.wholeSecond.min_le, t.wholeSecond.le_max, t.wholeSecond.nanos_lt,
    t.wholeSecond.leap_ends_minute⟩]
  rfl

theorem secondOfDay_lt (t : Instant) : t.secondOfDay < 86400 := by
  unfold secondOfDay secondsPerDay
  omega

/-- A leap second is the last one of its minute. -/
theorem secondOfDay_of_isLeap {t : Instant} (h : t.isLeap = true) : t.secondOfDay % 60 = 59 := by
  have hminute : t.seconds % 60 = 59 := t.leap_ends_minute (by simpa [isLeap] using h)
  unfold secondOfDay secondsPerDay
  omega

theorem writtenSecond_le (t : Instant) : t.writtenSecond ≤ 60 := by
  unfold writtenSecond
  split <;> omega

/-- The second that is written is the one of the minute, except for a leap second. -/
theorem min_writtenSecond (t : Instant) : min t.writtenSecond 59 = t.secondOfDay % 60 := by
  unfold writtenSecond
  cases h : t.isLeap
  · simp only [Bool.false_eq_true, if_false]
    omega
  · simp [secondOfDay_of_isLeap h]

/-- Only a leap second is written as the second 60. -/
theorem writtenSecond_eq_sixty (t : Instant) : t.writtenSecond = 60 ↔ t.isLeap = true := by
  unfold writtenSecond
  cases h : t.isLeap
  · simp only [Bool.false_eq_true, if_false, iff_false]
    omega
  · simp [secondOfDay_of_isLeap h]

/-- Date and time of day give the instant back. -/
theorem ofCivil?_date {t : Instant} (hlow : -262143 ≤ t.date.year) (hhigh : t.date.year ≤ 262142) :
    ofCivil? t.date (t.secondOfDay / 3600) (t.secondOfDay / 60 % 60) t.writtenSecond =
      some t.wholeSecond := by
  have hsecond := t.secondOfDay_lt
  have hdate : t.date.exists = true := exists_ofDays _
  have hyear : yearInRange t.date.year = true := by simp [yearInRange, hlow, hhigh]
  have hdays : t.date.toDays = t.seconds / secondsPerDay := toDays_ofDays _
  have hseconds : t.date.toDays * secondsPerDay + ((t.secondOfDay / 3600 * 3600 +
      t.secondOfDay / 60 % 60 * 60 + min t.writtenSecond 59 : Nat) : Int) = t.seconds := by
    rw [min_writtenSecond, hdays]
    unfold secondOfDay secondsPerDay
    omega
  have hguard : (t.date.exists && yearInRange t.date.year &&
      decide (t.secondOfDay / 3600 ≤ 23) && decide (t.secondOfDay / 60 % 60 ≤ 59) &&
      decide (t.writtenSecond ≤ 60)) = true := by
    simp only [hdate, hyear, Bool.and_eq_true, decide_eq_true_eq, true_and]
    exact ⟨⟨by omega, by omega⟩, t.writtenSecond_le⟩
  rw [ofCivil?, if_pos hguard]
  simp only [hseconds, writtenSecond_eq_sixty]
  exact ofUnix?_wholeSecond t

/-- A stamp with a four-digit year is read back as the whole second. -/
theorem ofStamp?_stamp {t : Instant} (hlow : 0 ≤ t.date.year) (hhigh : t.date.year ≤ 9999) :
    ofStamp? t.stamp = some t.wholeSecond := by
  have hdate : t.date.exists = true := exists_ofDays _
  simp only [Date.exists, Bool.and_eq_true, decide_eq_true_eq] at hdate
  have hmonth : t.date.month < 100 := by omega
  have hlength := daysInMonth_le t.date.year t.date.month
  have hday : t.date.day < 100 := by omega
  have hsecond := t.secondOfDay_lt
  have hwritten := t.writtenSecond_le
  rw [stamp, dateStamp, ofStamp?, List.append_assoc, List.append_assoc, List.append_assoc,
    List.append_assoc, takeYear?_yearText hlow hhigh]
  simp only [Option.bind_eq_bind, Option.bind_some, takeField?_twoDigits hmonth,
    takeField?_twoDigits hday, takeMark?, if_true]
  rw [takeField?_twoDigits (by omega)]
  simp only [Option.bind_some]
  rw [takeField?_twoDigits (by omega)]
  simp only [Option.bind_some]
  rw [takeField?_twoDigits (by omega)]
  simp only [Option.bind_some, if_true, List.isEmpty_nil]
  exact ofCivil?_date (by omega) (by omega)

/-- The date of a stamp with a four-digit year consists of digits. -/
theorem isDigit_of_mem_dateStamp {t : Instant} (hlow : 0 ≤ t.date.year)
    (hhigh : t.date.year ≤ 9999) {c : Char} (h : c ∈ t.dateStamp) : c.isDigit = true := by
  simp only [dateStamp, yearText, if_pos (And.intro hlow hhigh), twoDigits, List.mem_append] at h
  rcases h with (h | h) | h <;> exact Decimal.isDigit_of_mem_padded h

/-- The date of a stamp with a four-digit year has eight digits. -/
theorem length_dateStamp {t : Instant} (hlow : 0 ≤ t.date.year) (hhigh : t.date.year ≤ 9999) :
    t.dateStamp.length = 8 := by
  have hdate : t.date.exists = true := exists_ofDays _
  simp only [Date.exists, Bool.and_eq_true, decide_eq_true_eq] at hdate
  have hlength := daysInMonth_le t.date.year t.date.month
  rw [dateStamp, yearText, if_pos ⟨hlow, hhigh⟩, twoDigits, twoDigits, List.length_append,
    List.length_append, Decimal.length_padded (by decide) (by omega),
    Decimal.length_padded (by decide) (by omega), Decimal.length_padded (by decide) (by omega)]

/-- The date of a stamp holds no slash, whatever its year. -/
theorem slash_not_mem_dateStamp (t : Instant) : '/' ∉ t.dateStamp := by
  have hdigits : ∀ width n : Nat, '/' ∉ Decimal.padded width n := fun _ _ h =>
    absurd (Decimal.isDigit_of_mem_padded h) (by decide)
  have hyear : '/' ∉ yearText t.date.year := by
    by_cases hrange : 0 ≤ t.date.year ∧ t.date.year ≤ 9999
    · rw [yearText, if_pos hrange]
      exact hdigits _ _
    · obtain ⟨sign, hsign, htext⟩ := yearText_of_not hrange
      rw [htext, List.mem_cons, not_or]
      refine ⟨?_, hdigits _ _⟩
      rcases hsign with rfl | rfl <;> decide
  simp only [dateStamp, twoDigits, List.mem_append, not_or]
  exact ⟨⟨hyear, hdigits _ _⟩, hdigits _ _⟩

/-- A stamp with another year is not read: nothing divides a signed year from the month. -/
theorem ofStamp?_stamp_of_not {t : Instant} (h : ¬(0 ≤ t.date.year ∧ t.date.year ≤ 9999)) :
    ofStamp? t.stamp = none := by
  obtain ⟨sign, hsign, hyear⟩ := yearText_of_not h
  have hdigits : ∀ c ∈ Decimal.padded 4 t.date.year.natAbs ++ twoDigits t.date.month ++
      twoDigits t.date.day, c.isDigit = true := by
    intro c hc
    simp only [twoDigits, List.mem_append] at hc
    rcases hc with (hc | hc) | hc <;> exact Decimal.isDigit_of_mem_padded hc
  obtain ⟨year, hread⟩ := takeYear?_sign hsign hdigits (by simp [Decimal.padded_ne_nil])
    (by decide : 'T'.isDigit = false) (twoDigits (t.secondOfDay / 3600) ++
      twoDigits (t.secondOfDay / 60 % 60) ++ twoDigits t.writtenSecond ++ ['Z'])
  have hstamp : t.stamp = sign :: (Decimal.padded 4 t.date.year.natAbs ++ twoDigits t.date.month ++
      twoDigits t.date.day ++ 'T' :: (twoDigits (t.secondOfDay / 3600) ++
      twoDigits (t.secondOfDay / 60 % 60) ++ twoDigits t.writtenSecond ++ ['Z'])) := by
    rw [stamp, dateStamp, hyear]
    rfl
  have hmonth (rest : List Char) : takeField? ('T' :: rest) = none := rfl
  rw [ofStamp?, hstamp, hread]
  simp only [Option.bind_eq_bind, Option.bind_some, hmonth, Option.bind_none]

end Instant

end ObjectAccess.Time
