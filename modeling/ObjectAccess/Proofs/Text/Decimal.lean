import Mathlib
import ObjectAccess.Text.Blank
import ObjectAccess.Text.Decimal

/-!
# Numbers are read back

The digits of a number have its value, with or without zeros in front
(`value_padded`), and as many zeros are written as the width asks for
(`length_padded`).  So a number that stands alone is read back (`readSigned?_ofInt`).  The other
way round, digits are those of their value if they do not start with a zero (`digits_value`).
-/

namespace ObjectAccess.Decimal

set_option autoImplicit false

open ObjectAccess.Text

/-! ## Digits -/

theorem value_eq_ofDigitChars (text : List Char) : value text = Nat.ofDigitChars 10 text 0 := by
  rw [Nat.ofDigitChars_eq_foldl, value]
  congr 1
  funext n c
  rw [digitValue, Nat.mul_comm]

theorem value_digits (n : Nat) : value (digits n) = n := by
  rw [value_eq_ofDigitChars, digits, Nat.ofDigitChars_ten_toDigits]

theorem isDigit_of_mem_digits {n : Nat} {c : Char} (h : c ∈ digits n) : c.isDigit = true :=
  Nat.isDigit_of_mem_toDigits (by decide) (by decide) h

theorem digits_ne_nil (n : Nat) : digits n ≠ [] := Nat.toDigits_ne_nil

/-- Zeros in front do not change the value. -/
theorem value_padded (width n : Nat) : value (padded width n) = n := by
  rw [padded, value_eq_ofDigitChars, Nat.ofDigitChars_append, Nat.ofDigitChars_replicate_zero,
    Nat.mul_zero, ← value_eq_ofDigitChars, value_digits]

theorem isDigit_of_mem_padded {width n : Nat} {c : Char} (h : c ∈ padded width n) :
    c.isDigit = true := by
  rcases List.mem_append.mp h with h | h
  · rw [(List.mem_replicate.mp h).2]
    rfl
  · exact isDigit_of_mem_digits h

/-- A number that fits has exactly the width it is padded to. -/
theorem length_padded {width n : Nat} (hwidth : 0 < width) (hn : n < 10 ^ width) :
    (padded width n).length = width := by
  have hle : (digits n).length ≤ width :=
    (Nat.length_toDigits_le_iff (by decide) hwidth).mpr hn
  rw [padded, List.length_append, List.length_replicate]
  omega

theorem padded_ne_nil (width n : Nat) : padded width n ≠ [] := by
  simp [padded, digits_ne_nil]

/-- Whether a text is a number that is written with a fixed number of digits. -/
structure IsFixed (width n : Nat) (text : List Char) : Prop where
  length : text.length = width
  digits : ∀ c ∈ text, c.isDigit = true
  value : value text = n

theorem isFixed_padded {width n : Nat} (hwidth : 0 < width) (hn : n < 10 ^ width) :
    IsFixed width n (padded width n) where
  length := length_padded hwidth hn
  digits _ := isDigit_of_mem_padded
  value := value_padded width n

/-! ## What a digit is not -/

theorem isDigit_range {c : Char} (h : c.isDigit = true) :
    48 ≤ c.val.toNat ∧ c.val.toNat ≤ 57 := by
  simpa only [Char.isDigit, ge_iff_le, Bool.and_eq_true, decide_eq_true_eq,
    UInt32.le_iff_toNat_le, Char.reduceVal, UInt32.reduceToNat] using h

theorem ne_of_isDigit {c d : Char} (h : c.isDigit = true) (hd : d.isDigit = false) : c ≠ d := by
  rintro rfl
  exact absurd h (by simp [hd])

theorem ascii_of_isDigit {c : Char} (h : c.isDigit = true) : c.val.toNat < 0x80 := by
  have hrange := isDigit_range h
  omega

/-- Digits are no white space. -/
theorem isBlank_of_isDigit {c : Char} (h : c.isDigit = true) : isBlank c = false := by
  have hrange := isDigit_range h
  simp only [isBlank, Ranges.has, blankRanges, List.any_cons, List.any_nil, Bool.or_eq_false_iff,
    Bool.and_eq_false_iff, decide_eq_false_iff_not, Char.toNat]
  refine ⟨?_, ?_, ?_, ?_, ?_, ?_, ?_, ?_, ?_, ?_, trivial⟩ <;> omega

/-! ## Numbers without leading zeros -/

theorem digits_digitValue {c : Char} (h : c.isDigit = true) : digits (digitValue c) = [c] := by
  obtain ⟨hlow, hhigh⟩ := isDigit_range h
  have hvalue : digitValue c = c.val.toNat - 48 := rfl
  have hchar : (digitValue c).digitChar = c := by
    apply Char.toNat_inj.mp
    rw [Nat.toNat_digitChar_of_lt_ten (by omega), hvalue]
    change _ = c.val.toNat
    omega
  rw [digits, Nat.toDigits_of_lt_base (by omega), hchar]

theorem value_append_singleton (text : List Char) (c : Char) :
    value (text ++ [c]) = value text * 10 + digitValue c := by
  rw [value, List.foldl_append]
  rfl

/-- Digits that do not start with a zero are those of their value. -/
theorem digits_value {text : List Char} (hne : text ≠ [])
    (hdigits : ∀ c ∈ text, c.isDigit = true) (hlead : text.head? ≠ some '0') :
    digits (value text) = text := by
  -- The last digit is put behind a number only if that is not zero, so both facts go together.
  have key : 0 < value text ∧ digits (value text) = text := by
    induction text using List.reverseRecOn with
    | nil => exact absurd rfl hne
    | append_singleton front c ih =>
        have hc : c.isDigit = true :=
          hdigits c (List.mem_append_right _ (List.mem_singleton_self c))
        obtain ⟨hlow, hhigh⟩ := isDigit_range hc
        have hvalue : digitValue c = c.val.toNat - 48 := rfl
        by_cases hfront : front = []
        · subst hfront
          have hzero : c.val.toNat ≠ 48 := fun heq =>
            hlead (congrArg some (Char.toNat_inj.mp heq))
          have hself : value ([] ++ [c]) = digitValue c := by
            rw [value_append_singleton]
            exact Nat.zero_add _
          rw [hself, digits_digitValue hc]
          exact ⟨by omega, rfl⟩
        · have hdigits' : ∀ d ∈ front, d.isDigit = true := fun d hd =>
            hdigits d (List.mem_append_left _ hd)
          have hlead' : front.head? ≠ some '0' := by
            rwa [List.head?_append_of_ne_nil _ hfront] at hlead
          obtain ⟨hpos, hself⟩ := ih hfront hdigits' hlead'
          rw [value_append_singleton]
          refine ⟨by omega, ?_⟩
          calc digits (value front * 10 + digitValue c)
            _ = digits (value front) ++ digits (digitValue c) := by
                rw [Nat.mul_comm]
                exact (Nat.toDigits_append_toDigits (by decide) hpos (by omega)).symm
            _ = front ++ [c] := by rw [hself, digits_digitValue hc]
  exact key.2

/-- Only the number zero is written with a zero in front. -/
theorem head?_digits_ne_zero {n : Nat} (h : n ≠ 0) : (digits n).head? ≠ some '0' := by
  induction n using Nat.strong_induction_on with
  | _ n ih =>
      by_cases hlt : n < 10
      · rw [digits, Nat.toDigits_of_lt_base hlt]
        intro hzero
        exact h (Nat.digitChar_eq_zero.mp (Option.some.inj hzero))
      · have hrest : (digits (n / 10)).head? ≠ some '0' := ih (n / 10) (by omega) (by omega)
        rw [digits, Nat.toDigits_of_base_le (by decide) (by omega),
          List.head?_append_of_ne_nil _ Nat.toDigits_ne_nil]
        exact hrest

/-! ## Numbers that stand alone -/

theorem readDigits?_digits (n : Nat) : readDigits? (digits n) = some n := by
  have hall : (digits n).all Char.isDigit = true :=
    List.all_eq_true.mpr fun _ hc => isDigit_of_mem_digits hc
  rw [readDigits?, if_pos ⟨digits_ne_nil n, hall⟩, value_digits]

/-- A number that is not negative and fits is read back. -/
theorem readSigned?_ofInt {n : Int} (hn : 0 ≤ n) (hlt : n < 0x8000000000000000) :
    readSigned? (ofInt n) = some n := by
  obtain ⟨c, rest, hdigits⟩ : ∃ c rest, digits n.natAbs = c :: rest :=
    List.exists_cons_of_ne_nil (digits_ne_nil _)
  have hc : c.isDigit = true := isDigit_of_mem_digits (hdigits ▸ List.mem_cons_self ..)
  have hminus : c ≠ '-' := ne_of_isDigit hc (by decide)
  have hplus : c ≠ '+' := ne_of_isDigit hc (by decide)
  have hread : readNat? (0x8000000000000000) (digits n.natAbs) = some n.natAbs := by
    unfold readNat?
    split
    · next h => exact absurd (List.cons.inj (hdigits ▸ h)).1 hplus
    · have hfits : decide (n.natAbs < 0x8000000000000000) = true := by
        rw [decide_eq_true_eq]
        omega
      change (readDigits? (digits n.natAbs)).filter (· < 0x8000000000000000) = some n.natAbs
      rw [readDigits?_digits, Option.filter_some, if_pos hfits]
  have hself : (n.natAbs : Int) = n := Int.natAbs_of_nonneg hn
  rw [ofInt, if_neg (by omega), readSigned?.eq_def]
  split
  · next h => exact absurd (List.cons.inj (hdigits ▸ h)).1 hminus
  · rw [hread]
    simp [hself]

end ObjectAccess.Decimal
