import Mathlib
import ObjectAccess.Text.Utf8

/-!
# Text comes back from its octets

The reader of octets reads every text back from what was written (`decodeLossy_octets`).
Each octet of a character moves the machine one state further: the first one says how
many are owed, and every other one lies in the range that the state asks for, because
the character is neither overlong nor a surrogate nor past the last code point.
-/

namespace ObjectAccess.Text

set_option autoImplicit false

@[simp] theorem octets_nil : octets [] = [] := rfl

@[simp] theorem octets_cons (c : Char) (rest : List Char) :
    octets (c :: rest) = String.utf8EncodeChar c ++ octets rest := rfl

@[simp] theorem octets_append (a b : List Char) : octets (a ++ b) = octets a ++ octets b := by
  simp [octets]

/-! ## One octet -/

theorem decodeFrom_octet (state : Utf8State) {n : Nat} (hn : n < 256) (rest : List UInt8) :
    decodeFrom state (UInt8.ofNat n :: rest) =
      (utf8Step state n).1 ++ decodeFrom (utf8Step state n).2 rest := by
  have hoctet : (UInt8.ofNat n).toNat = n := UInt8.toNat_ofNat_of_lt' hn
  cases state <;> rw [decodeFrom, hoctet]

theorem utf8Step_owed {value owed low high b : Nat} (hlow : low ≤ b) (hhigh : b ≤ high) :
    utf8Step (.inside value (owed + 1) low high) b =
      ([], .inside (value * 64 + (b - 0x80)) owed 0x80 0xBF) := by
  rw [utf8Step, if_pos ⟨hlow, hhigh⟩]

theorem utf8Step_last {value low high b : Nat} (hlow : low ≤ b) (hhigh : b ≤ high) :
    utf8Step (.inside value 0 low high) b = ([Char.ofNat (value * 64 + (b - 0x80))], .idle) := by
  rw [utf8Step, if_pos ⟨hlow, hhigh⟩]

theorem firstOctet_ascii {b : Nat} (h : b < 0x80) : firstOctet b = ([Char.ofNat b], .idle) := by
  rw [firstOctet, if_pos h]

theorem firstOctet_two {b : Nat} (hlow : 0xC2 ≤ b) (hhigh : b < 0xE0) :
    firstOctet b = ([], .inside (b - 0xC0) 0 0x80 0xBF) := by
  rw [firstOctet, if_neg (by omega), if_neg (by omega), if_pos hhigh]

theorem firstOctet_three {b : Nat} (hlow : 0xE0 ≤ b) (hhigh : b < 0xF0) :
    firstOctet b = ([], .inside (b - 0xE0) 1 (if b = 0xE0 then 0xA0 else 0x80)
      (if b = 0xED then 0x9F else 0xBF)) := by
  rw [firstOctet, if_neg (by omega), if_neg (by omega), if_neg (by omega), if_pos hhigh]

theorem firstOctet_four {b : Nat} (hlow : 0xF0 ≤ b) (hhigh : b < 0xF5) :
    firstOctet b = ([], .inside (b - 0xF0) 2 (if b = 0xF0 then 0x90 else 0x80)
      (if b = 0xF4 then 0x8F else 0xBF)) := by
  rw [firstOctet, if_neg (by omega), if_neg (by omega), if_neg (by omega), if_neg (by omega),
    if_pos hhigh]

/-! ## One character -/

/-- The code point of a character is below the surrogates, or above them and not too large. -/
theorem toNat_range (c : Char) :
    c.val.toNat < 0xD800 ∨ 0xDFFF < c.val.toNat ∧ c.val.toNat < 0x110000 := c.valid

/-- If one test implies another up to a code point, it does so for every character before it. -/
theorem test_of_toNat_lt {p q : Char → Bool} {bound : Nat}
    (h : ∀ n < bound, p (Char.ofNat n) = true → q (Char.ofNat n) = true) {c : Char}
    (hc : c.toNat < bound) (hp : p c = true) : q c = true := by
  have hq := h c.toNat hc
  rw [Char.ofNat_toNat] at hq
  exact hq hp

theorem ofNat_eq_self (c : Char) {n : Nat} (h : n = c.val.toNat) : Char.ofNat n = c := by
  rw [h]
  exact Char.ofNat_toNat c

theorem utf8EncodeChar_ascii {c : Char} (h : c.val.toNat < 0x80) :
    String.utf8EncodeChar c = [UInt8.ofNat c.val.toNat] := by
  simp only [String.utf8EncodeChar]
  rw [if_pos (by omega)]

/-- A character is read back from its octets, and the machine is idle after them. -/
theorem decodeFrom_utf8EncodeChar (c : Char) (rest : List UInt8) :
    decodeFrom .idle (String.utf8EncodeChar c ++ rest) = c :: decodeFrom .idle rest := by
  have hrange := toNat_range c
  have hself : ∀ n, n = c.val.toNat → Char.ofNat n = c := fun _ => ofNat_eq_self c
  unfold String.utf8EncodeChar
  generalize c.val.toNat = v at hrange hself
  simp only
  -- One case for each number of octets; in each, the ranges follow from that of the code point.
  split
  · next h1 =>
      rw [List.singleton_append, decodeFrom_octet _ (by omega), utf8Step,
        firstOctet_ascii (by omega), hself v rfl]
      rfl
  · split
    · next h1 h2 =>
        rw [List.cons_append, decodeFrom_octet _ (by omega), utf8Step,
          firstOctet_two (by omega) (by omega), List.singleton_append,
          decodeFrom_octet _ (by omega), utf8Step_last (by omega) (by omega), hself _ (by omega)]
        rfl
    · split
      · next h1 h2 h3 =>
          rw [List.cons_append, decodeFrom_octet _ (by omega), utf8Step,
            firstOctet_three (by omega) (by omega), List.cons_append,
            decodeFrom_octet _ (by omega), utf8Step_owed (by split <;> omega)
              (by split <;> omega), List.singleton_append, decodeFrom_octet _ (by omega),
            utf8Step_last (by omega) (by omega), hself _ (by omega)]
          rfl
      · next h1 h2 h3 =>
          rw [List.cons_append, decodeFrom_octet _ (by omega), utf8Step,
            firstOctet_four (by omega) (by omega), List.cons_append,
            decodeFrom_octet _ (by omega), utf8Step_owed (by split <;> omega)
              (by split <;> omega), List.cons_append, decodeFrom_octet _ (by omega),
            utf8Step_owed (by omega) (by omega), List.singleton_append,
            decodeFrom_octet _ (by omega), utf8Step_last (by omega) (by omega),
            hself _ (by omega)]
          rfl

/-! ## Lengths -/

/-- A character has one to four octets. -/
theorem length_octets_range : ∀ text : List Char,
    text.length ≤ (octets text).length ∧ (octets text).length ≤ 4 * text.length
  | [] => ⟨Nat.le_refl 0, Nat.le_refl 0⟩
  | c :: others => by
      have hlow := c.utf8Size_pos
      have hhigh := c.utf8Size_le_four
      have ih := length_octets_range others
      rw [octets_cons, List.length_append, List.length_cons, String.length_utf8EncodeChar]
      omega

/-- Characters of ASCII have one octet each. -/
theorem length_octets_append_of_ascii {text : List Char} (h : ∀ c ∈ text, c.val.toNat < 0x80)
    (rest : List Char) : (octets (text ++ rest)).length = text.length + (octets rest).length := by
  induction text with
  | nil => exact (Nat.zero_add _).symm
  | cons c others ih =>
      obtain ⟨hc, hothers⟩ := List.forall_mem_cons.mp h
      rw [List.cons_append, octets_cons, utf8EncodeChar_ascii hc, List.length_append, ih hothers,
        List.length_singleton, List.length_cons]
      omega

/-- The size of a text is the number of its octets. -/
theorem utf8ByteSize_ofList (text : List Char) :
    (String.ofList text).utf8ByteSize = (octets text).length := by
  rw [String.utf8ByteSize, String.toByteArray_ofList, List.utf8Encode, List.size_toByteArray]
  rfl

theorem length_octets_toList (s : String) : (octets s.toList).length = s.utf8ByteSize := by
  rw [← utf8ByteSize_ofList, String.ofList_toList]

/-- A text that repeats a character of ASCII has as many octets. -/
theorem utf8ByteSize_replicate (n : Nat) {c : Char} (h : c.val.toNat < 0x80) :
    (String.ofList (List.replicate n c)).utf8ByteSize = n := by
  have hascii : ∀ d ∈ List.replicate n c, d.val.toNat < 0x80 := fun d hd =>
    List.eq_of_mem_replicate hd ▸ h
  have hlength := length_octets_append_of_ascii hascii []
  rwa [List.append_nil, List.length_replicate, ← utf8ByteSize_ofList] at hlength

/-! ## Text -/

/-- A text is read back from its octets. -/
theorem decodeLossy_octets : ∀ text : List Char, decodeLossy (octets text) = text
  | [] => rfl
  | c :: rest => by
      have ih : decodeFrom .idle (octets rest) = rest := decodeLossy_octets rest
      rw [decodeLossy, octets_cons, decodeFrom_utf8EncodeChar, ih]

end ObjectAccess.Text
