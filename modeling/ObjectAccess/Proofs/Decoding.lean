import ObjectAccess.Proofs.Percent
import ObjectAccess.Proofs.Text.Lossy

/-!
# What reading changes

Reading a component changes it just if it has an escape: a `%` before two hexadecimal digits
(`decode_eq_self_iff`).  Without an escape every octet is read as it is.  With one the text gets
shorter, whatever the octets of its escapes are: an escape takes three characters and yields one
octet, which adds at most one character to what is read, and a character that is written as it
is adds none but itself (`length_decodeFrom`).
-/

namespace ObjectAccess

set_option autoImplicit false

open ObjectAccess.Text

/-! ## Digits -/

namespace Hex

/-- Whether a character is a digit of either case. -/
def IsDigit (c : Char) : Prop :=
  ('0' ≤ c ∧ c ≤ '9') ∨ ('A' ≤ c ∧ c ≤ 'F') ∨ ('a' ≤ c ∧ c ≤ 'f')

instance (c : Char) : Decidable (IsDigit c) := inferInstanceAs (Decidable (_ ∨ _))

theorem isDigit_iff {c : Char} : IsDigit c ↔ (value? c).isSome = true := by
  simp only [IsDigit, value?, Bool.and_eq_true, decide_eq_true_eq]
  split_ifs <;> simp_all

theorem IsDigit.ascii {c : Char} (h : IsDigit c) : c.val.toNat < 0x80 := by
  simp only [IsDigit, Char.le_def, UInt32.le_iff_toNat_le] at h
  rcases h with ⟨-, h⟩ | ⟨-, h⟩ | ⟨-, h⟩
  all_goals exact Nat.lt_of_le_of_lt h (by decide)

end Hex

namespace Percent

/-! ## Escapes -/

/-- Whether a text starts with an escape. -/
def StartsEscape (text : List Char) : Prop :=
  ∃ high low, Hex.IsDigit high ∧ Hex.IsDigit low ∧ ['%', high, low] <+: text

/-- Whether there is an escape somewhere in a text. -/
def HasEscape (text : List Char) : Prop :=
  ∃ high low, Hex.IsDigit high ∧ Hex.IsDigit low ∧ ['%', high, low] <:+: text

theorem not_hasEscape_nil : ¬HasEscape [] := by
  rintro ⟨high, low, -, -, h⟩
  exact absurd (List.infix_nil.mp h) (List.cons_ne_nil _ _)

theorem hasEscape_cons {c : Char} {rest : List Char} :
    HasEscape (c :: rest) ↔ StartsEscape (c :: rest) ∨ HasEscape rest := by
  unfold HasEscape StartsEscape
  simp only [List.infix_cons_iff, and_or_left, exists_or]

theorem StartsEscape.exists_eq {text : List Char} (h : StartsEscape text) :
    ∃ high low rest, Hex.IsDigit high ∧ Hex.IsDigit low ∧ text = '%' :: high :: low :: rest := by
  obtain ⟨high, low, hhigh, hlow, rest, rfl⟩ := h
  exact ⟨high, low, rest, hhigh, hlow, rfl⟩

theorem startsEscape_of_eq {high low : Char} (hhigh : Hex.IsDigit high) (hlow : Hex.IsDigit low)
    (rest : List Char) : StartsEscape ('%' :: high :: low :: rest) :=
  ⟨high, low, hhigh, hlow, rest, rfl⟩

/-- An escape stands inside one segment of a path. -/
theorem hasEscape_iff_exists_segment {path : List Char} :
    HasEscape path ↔ ∃ segment ∈ pieces '/' path, HasEscape segment := by
  have hslash : ∀ c, Hex.IsDigit c → '/' ≠ c := by
    rintro c hc rfl
    exact absurd hc (by decide)
  have hsegments : ∀ {high low : Char}, Hex.IsDigit high → Hex.IsDigit low →
      (['%', high, low] <:+: path ↔
        ∃ segment ∈ pieces '/' path, ['%', high, low] <:+: segment) := by
    intro high low hhigh hlow
    apply infix_iff_exists_piece
    simp [hslash high hhigh, hslash low hlow]
  constructor
  · rintro ⟨high, low, hhigh, hlow, h⟩
    obtain ⟨segment, hsegment, hin⟩ := (hsegments hhigh hlow).mp h
    exact ⟨segment, hsegment, high, low, hhigh, hlow, hin⟩
  · rintro ⟨segment, hsegment, high, low, hhigh, hlow, hin⟩
    exact ⟨high, low, hhigh, hlow, (hsegments hhigh hlow).mpr ⟨segment, hsegment, hin⟩⟩

/-! ## Octets -/

theorem digitValue?_ascii {c : Char} (h : c.val.toNat < 0x80) :
    digitValue? (UInt8.ofNat c.val.toNat) = Hex.value? c := by
  rw [digitValue?, UInt8.toNat_ofNat_of_lt' (by simp only [UInt8.size]; omega), ofNat_eq_self _ rfl]

/-- An octet that is a digit is an ASCII character. -/
theorem lt_of_digitValue? {b : UInt8} (h : (digitValue? b).isSome = true) : b.toNat < 0x80 := by
  have hb : b.toNat < 256 := b.toNat_lt_size
  have hvalid : b.toNat.isValidChar := Or.inl (by omega)
  have hchar : (Char.ofNat b.toNat).toNat < 0x80 := (Hex.isDigit_iff.mpr h).ascii
  rwa [Char.toNat_ofNat, if_pos hvalid] at hchar

/-- A text whose first octet is a digit starts with that digit. -/
theorem exists_digit {text : List Char} {b : UInt8} {others : List UInt8}
    (h : octets text = b :: others) (hb : (digitValue? b).isSome = true) :
    ∃ c rest, text = c :: rest ∧ Hex.IsDigit c ∧ octets rest = others := by
  cases text with
  | nil => cases h
  | cons c rest =>
      rw [octets_cons] at h
      by_cases hascii : c.val.toNat < 0x80
      · rw [utf8EncodeChar_ascii hascii, List.singleton_append] at h
        obtain ⟨rfl, hrest⟩ := List.cons.inj h
        rw [digitValue?_ascii hascii] at hb
        exact ⟨c, rest, rfl, Hex.isDigit_iff.mpr hb, hrest⟩
      · obtain ⟨first, more, hfirst, hlarge⟩ :=
          exists_utf8EncodeChar_of_le (Nat.le_of_not_lt hascii)
        rw [hfirst, List.cons_append] at h
        obtain ⟨rfl, -⟩ := List.cons.inj h
        have hsmall := lt_of_digitValue? hb
        omega

/-- An escape is read as one octet. -/
theorem exists_decodeOctets_escape {high low : Char} (hhigh : Hex.IsDigit high)
    (hlow : Hex.IsDigit low) (rest : List Char) :
    ∃ b, decodeOctets (octets ('%' :: high :: low :: rest)) = b :: decodeOctets (octets rest) := by
  obtain ⟨h, hh⟩ := Option.isSome_iff_exists.mp (Hex.isDigit_iff.mp hhigh)
  obtain ⟨l, hl⟩ := Option.isSome_iff_exists.mp (Hex.isDigit_iff.mp hlow)
  refine ⟨UInt8.ofNat (h * 16 + l), ?_⟩
  rw [octets_cons, octets_cons, octets_cons, utf8EncodeChar_ascii (by decide),
    utf8EncodeChar_ascii hhigh.ascii, utf8EncodeChar_ascii hlow.ascii]
  simp only [List.singleton_append]
  rw [decodeOctets, escaped?, if_pos (by decide), digitValue?_ascii hhigh.ascii,
    digitValue?_ascii hlow.ascii, hh, hl]

/-- A `%` that starts no escape is read as it is. -/
theorem decodeOctets_percent {rest : List Char} (h : ¬StartsEscape ('%' :: rest)) :
    decodeOctets (0x25 :: octets rest) = 0x25 :: decodeOctets (octets rest) := by
  cases hrest : octets rest with
  | nil => rfl
  | cons a others =>
      cases others with
      | nil => rfl
      | cons b more =>
          have hnone : escaped? 0x25 a b = none := by
            by_contra hsome
            rw [escaped?, if_pos rfl] at hsome
            have ha : (digitValue? a).isSome = true := by
              cases ha : digitValue? a with
              | none => simp [ha] at hsome
              | some value => rfl
            have hb : (digitValue? b).isSome = true := by
              cases hb : digitValue? b with
              | none => simp [hb] at hsome
              | some value => rfl
            obtain ⟨high, afterHigh, rfl, hhigh, hnext⟩ := exists_digit hrest ha
            obtain ⟨low, afterLow, rfl, hlow, -⟩ := exists_digit hnext hb
            exact h (startsEscape_of_eq hhigh hlow afterLow)
          rw [decodeOctets, hnone]

/-- A character that starts no escape is read as it is. -/
theorem decodeOctets_char {c : Char} {rest : List Char} (h : ¬StartsEscape (c :: rest)) :
    decodeOctets (octets (c :: rest)) = String.utf8EncodeChar c ++ decodeOctets (octets rest) := by
  by_cases hc : c = '%'
  · subst hc
    exact decodeOctets_percent h
  · rw [octets_cons]
    refine decodeOctets_append (fun b hb => ?_) _
    by_cases hascii : c.val.toNat < 0x80
    · rw [utf8EncodeChar_ascii hascii, List.mem_singleton] at hb
      rw [hb]
      exact octet_ne_percent hascii hc
    · have hlarge := le_of_mem_utf8EncodeChar (Nat.le_of_not_lt hascii) hb
      rintro rfl
      exact absurd hlarge (by decide)

/-! ## What is read -/

/-- A text without escapes is read as it is. -/
theorem decode_of_not_hasEscape {text : List Char} (h : ¬HasEscape text) : decode text = text := by
  have hoctets : decodeOctets (octets text) = octets text := by
    induction text with
    | nil => rfl
    | cons c rest ih =>
        rw [hasEscape_cons, not_or] at h
        rw [decodeOctets_char h.1, ih h.2, octets_cons]
  rw [decode, hoctets, decodeLossy_octets]

/-- **Reading never makes a text longer, and it makes one with an escape shorter.**  The reader may
owe a character when it comes to the text. -/
theorem length_decodeFrom (text : List Char) {state : Utf8State} (hstate : state.Waits) :
    (decodeFrom state (decodeOctets (octets text))).length ≤ text.length + state.due ∧
      (HasEscape text →
        (decodeFrom state (decodeOctets (octets text))).length < text.length + state.due) := by
  -- The induction is on the length, as an escape takes three characters at once.
  induction hlength : text.length using Nat.strong_induction_on generalizing text state with
  | _ length ih =>
      subst hlength
      cases text with
      | nil =>
          refine ⟨?_, fun h => absurd h not_hasEscape_nil⟩
          cases state <;> exact Nat.le_refl _
      | cons c rest =>
          by_cases hstart : StartsEscape (c :: rest)
          · obtain ⟨high, low, others, hhigh, hlow, heq⟩ := hstart.exists_eq
            obtain ⟨b, hb⟩ := exists_decodeOctets_escape hhigh hlow others
            have hstep := (length_utf8Step state b.toNat).2
            have hothers := (ih others.length (by simp [heq]; omega) others
              (hstate.utf8Step b.toNat) rfl).1
            rw [heq, hb, decodeFrom_cons]
            simp only [List.length_append, List.length_cons]
            refine ⟨by omega, fun _ => by omega⟩
          · have hidle : Utf8State.idle.due = 0 := rfl
            obtain ⟨hle, hlt⟩ := ih rest.length (by simp) rest Utf8State.waits_idle rfl
            rw [hidle, Nat.add_zero] at hle hlt
            rw [decodeOctets_char hstart, decodeFrom_char hstate]
            simp only [List.length_append, List.length_replicate, List.length_cons]
            refine ⟨by omega, fun hescape => ?_⟩
            have hless := hlt ((hasEscape_cons.mp hescape).resolve_left hstart)
            omega

/-- **Reading changes a text just if it has an escape.** -/
theorem decode_eq_self_iff {text : List Char} : decode text = text ↔ ¬HasEscape text := by
  refine ⟨fun h hescape => ?_, decode_of_not_hasEscape⟩
  have hless := (length_decodeFrom text Utf8State.waits_idle).2 hescape
  have hself : (decodeFrom .idle (decodeOctets (octets text))).length = text.length :=
    congrArg List.length h
  rw [hself] at hless
  exact Nat.lt_irrefl _ hless

/-- What is read from some text is some text. -/
theorem decode_ne_nil {text : List Char} (h : text ≠ []) : decode text ≠ [] := by
  cases text with
  | nil => exact absurd rfl h
  | cons c rest =>
      apply decodeLossy_ne_nil
      by_cases hstart : StartsEscape (c :: rest)
      · obtain ⟨high, low, others, hhigh, hlow, heq⟩ := hstart.exists_eq
        obtain ⟨b, hb⟩ := exists_decodeOctets_escape hhigh hlow others
        rw [heq, hb]
        exact List.cons_ne_nil _ _
      · obtain ⟨b, others, hc, -⟩ := exists_utf8EncodeChar c
        rw [decodeOctets_char hstart, hc, List.cons_append]
        exact List.cons_ne_nil _ _

end Percent

end ObjectAccess
