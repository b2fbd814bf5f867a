import ObjectAccess.Json.Lexeme
import ObjectAccess.Json.Printer
import ObjectAccess.Proofs.Text.Utf8

/-!
# Texts in quotes are read back

What is written for a text between quotes is read as that text, whatever characters it has
(`quotedText_quoted`).  A character is written as itself, as a letter after a backslash, or as
four hexadecimal digits, and each of these three forms is read as the character
(`quotedChars_escapeChar`).  No form is the closing quote, so the text ends where it was closed.
-/

namespace ObjectAccess

set_option autoImplicit false

open ObjectAccess.Text

theorem Hex.value?_lowerDigit : ∀ n < 16, value? (lowerDigit n) = some n := by decide

namespace Json

/-- The digits of a control character are read as its code point. -/
theorem hexQuad_control {n : Nat} (h : n < 0x100) (rest : List Char) :
    hexQuad ('0' :: '0' :: Hex.lowerDigit (n / 16) :: Hex.lowerDigit (n % 16) :: rest) =
      .ok (n, rest) := by
  have hzero : Hex.value? '0' = some 0 := by decide
  have hhigh := Hex.value?_lowerDigit (n / 16) (by omega)
  have hlow := Hex.value?_lowerDigit (n % 16) (by omega)
  have hsum : ((0 * 16 + 0) * 16 + n / 16) * 16 + n % 16 = n := by omega
  rw [hexQuad, if_neg]
  · simp only [hzero, hhigh, hlow, hsum]
  · intro hshort
    have hlength := (length_octets_range
      ['0', '0', Hex.lowerDigit (n / 16), Hex.lowerDigit (n % 16)]).1
    exact absurd hshort (Nat.not_lt_of_le hlength)

/-- A control character is no surrogate, so its escape stands alone. -/
theorem unicodeEscape_control {c : Char} (h : c < ' ') (rest : List Char) :
    unicodeEscape ('0' :: '0' :: Hex.lowerDigit (c.toNat / 16) :: Hex.lowerDigit (c.toNat % 16) ::
      rest) = .ok (c, rest) := by
  have hcode : c.toNat < 0x20 := UInt32.lt_iff_toNat_lt.mp h
  rw [unicodeEscape, hexQuad_control (by omega)]
  simp only [bind, Except.bind]
  rw [if_neg (by omega), if_neg (by omega), Char.ofNat_toNat]

variable {fuel : Nat} {rest others after : List Char} {c : Char}

/-- An escape counts as one character. -/
theorem quotedChars_backslash {text : List Char} (hescape : escapeSequence text = .ok (c, rest))
    (h : quotedChars fuel rest = .ok (others, after)) :
    quotedChars (fuel + 1) ('\\' :: text) = .ok (c :: others, after) := by
  rw [quotedChars, if_neg (by decide), if_pos rfl, hescape]
  simp only [bind, Except.bind, h]

theorem quotedChars_plain (hquote : c ≠ '"') (hbackslash : c ≠ '\\') (hplain : ¬c < ' ')
    (h : quotedChars fuel rest = .ok (others, after)) :
    quotedChars (fuel + 1) (c :: rest) = .ok (c :: others, after) := by
  rw [quotedChars, if_neg hquote, if_neg hbackslash, if_neg hplain, h]
  rfl

/-- What is written for a character is read as that character. -/
theorem quotedChars_escapeChar (c : Char) (h : quotedChars fuel rest = .ok (others, after)) :
    quotedChars (fuel + 1) (escapeChar c ++ rest) = .ok (c :: others, after) := by
  unfold escapeChar
  -- A quote, a backslash and five control characters have a letter of their own.
  split
  · next hc =>
      subst hc
      exact quotedChars_backslash rfl h
  split
  · next hc =>
      subst hc
      exact quotedChars_backslash rfl h
  split
  · next hc =>
      subst hc
      exact quotedChars_backslash rfl h
  split
  · next hc =>
      subst hc
      exact quotedChars_backslash rfl h
  split
  · next hc =>
      subst hc
      exact quotedChars_backslash rfl h
  split
  · next hc =>
      subst hc
      exact quotedChars_backslash rfl h
  split
  · next hc =>
      subst hc
      exact quotedChars_backslash rfl h
  split
  · next hcontrol => exact quotedChars_backslash (unicodeEscape_control hcontrol rest) h
  · next hquote hbackslash _ _ _ _ _ hplain =>
      exact quotedChars_plain hquote hbackslash hplain h

/-- What is written for some characters is read as those characters. -/
theorem quotedChars_escaped (chars rest : List Char) (hfuel : chars.length < fuel) :
    quotedChars fuel (chars.flatMap escapeChar ++ '"' :: rest) = .ok (chars, rest) := by
  induction chars generalizing fuel with
  | nil =>
      obtain ⟨fuel, rfl⟩ := Nat.exists_eq_succ_of_ne_zero (Nat.ne_of_gt hfuel)
      rfl
  | cons c others ih =>
      rw [List.length_cons] at hfuel
      obtain ⟨fuel, rfl⟩ := Nat.exists_eq_succ_of_ne_zero (Nat.ne_of_gt (Nat.zero_lt_of_lt hfuel))
      rw [List.flatMap_cons, List.append_assoc]
      exact quotedChars_escapeChar c (ih (Nat.lt_of_succ_lt_succ hfuel))

theorem escapeChar_ne_nil (c : Char) : escapeChar c ≠ [] := by
  unfold escapeChar
  repeat' split
  all_goals exact List.cons_ne_nil _ _

theorem length_le_flatMap_escapeChar (chars : List Char) :
    chars.length ≤ (chars.flatMap escapeChar).length := by
  induction chars with
  | nil => exact Nat.le_refl 0
  | cons c others ih =>
      have hc := List.length_pos_iff.mpr (escapeChar_ne_nil c)
      rw [List.flatMap_cons, List.length_append, List.length_cons]
      omega

/-- **A text between quotes is read back.** -/
theorem quotedText_quoted (s : String) (rest : List Char) :
    quotedText (s.toList.flatMap escapeChar ++ '"' :: rest) = .ok (s, rest) := by
  have hlength := length_le_flatMap_escapeChar s.toList
  rw [quotedText, quotedChars_escaped s.toList rest]
  · simp only [bind, Except.bind, String.ofList_toList]
  · rw [List.length_append]
    omega

end Json

end ObjectAccess
