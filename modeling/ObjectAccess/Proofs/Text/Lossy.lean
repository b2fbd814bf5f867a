import ObjectAccess.Proofs.Text.Utf8

/-!
# Reading octets that are no text

Any octets are read as some text.  Between two octets the reader has written what it has read,
except for the character it stands in: that one is due, and what becomes of it is either the
character or U+FFFD.  One more octet adds something to what is written and due, and never more
than one character (`length_utf8Step`).  So nothing that is there to read is read as no text
(`decodeLossy_ne_nil`).

A character that is written as it is lets the reader start anew (`decodeFrom_char`): its first
octet is none of those that continue a character, so whatever was due becomes U+FFFD, and the
character itself is read.
-/

namespace ObjectAccess.Text

set_option autoImplicit false

namespace Utf8State

/-- How many characters the reader owes for the octets it has read: the one it stands in. -/
def due : Utf8State → Nat
  | .idle => 0
  | .inside _ _ _ _ => 1

/-- Inside a character, the reader waits for an octet that continues one. -/
def Waits : Utf8State → Prop
  | .idle => True
  | .inside _ _ low high => 0x80 ≤ low ∧ high ≤ 0xBF

theorem waits_idle : Utf8State.idle.Waits := trivial

end Utf8State

/-! ## One octet -/

/-- A first octet is a character of its own, or it starts one. -/
theorem length_firstOctet (b : Nat) : (firstOctet b).1.length + (firstOctet b).2.due = 1 := by
  unfold firstOctet
  split_ifs <;> rfl

theorem waits_firstOctet (b : Nat) : (firstOctet b).2.Waits := by
  unfold firstOctet
  split_ifs <;> simp [Utf8State.Waits]

/-- An octet that cannot stand there breaks the character off, and is read as a first octet. -/
theorem utf8Step_broken {value owed low high b : Nat} (h : ¬(low ≤ b ∧ b ≤ high)) :
    utf8Step (.inside value owed low high) b =
      (replacement :: (firstOctet b).1, (firstOctet b).2) := by
  cases owed <;> rw [utf8Step, if_neg h]

/-- An octet adds something to what is written and due, and at most one character. -/
theorem length_utf8Step (state : Utf8State) (b : Nat) :
    1 ≤ (utf8Step state b).1.length + (utf8Step state b).2.due ∧
      (utf8Step state b).1.length + (utf8Step state b).2.due ≤ state.due + 1 := by
  have hfirst := length_firstOctet b
  cases state with
  | idle => exact ⟨Nat.le_of_eq hfirst.symm, Nat.le_of_eq hfirst⟩
  | inside value owed low high =>
      by_cases hin : low ≤ b ∧ b ≤ high
      · cases owed with
        | zero => simp [utf8Step_last hin.1 hin.2, Utf8State.due]
        | succ more => simp [utf8Step_owed hin.1 hin.2, Utf8State.due]
      · rw [utf8Step_broken hin, List.length_cons]
        simp only [Utf8State.due] at *
        omega

theorem Utf8State.Waits.utf8Step {state : Utf8State} (h : state.Waits) (b : Nat) :
    (utf8Step state b).2.Waits := by
  have hfirst := waits_firstOctet b
  cases state with
  | idle => exact hfirst
  | inside value owed low high =>
      by_cases hin : low ≤ b ∧ b ≤ high
      · cases owed with
        | zero =>
            rw [utf8Step_last hin.1 hin.2]
            trivial
        | succ more =>
            rw [utf8Step_owed hin.1 hin.2]
            exact ⟨Nat.le_refl _, Nat.le_refl _⟩
      · rw [utf8Step_broken hin]
        exact hfirst

/-! ## All octets -/

theorem decodeFrom_cons (state : Utf8State) (b : UInt8) (rest : List UInt8) :
    decodeFrom state (b :: rest) =
      (utf8Step state b.toNat).1 ++ decodeFrom (utf8Step state b.toNat).2 rest := by
  cases state <;> rfl

/-- What is due is written in the end. -/
theorem due_le_length_decodeFrom (bytes : List UInt8) : ∀ state : Utf8State,
    state.due ≤ (decodeFrom state bytes).length := by
  induction bytes with
  | nil =>
      intro state
      cases state <;> exact Nat.le_refl _
  | cons b rest ih =>
      intro state
      have hstep := (length_utf8Step state b.toNat).1
      have hrest := ih (utf8Step state b.toNat).2
      have hdue : state.due ≤ 1 := by cases state <;> simp [Utf8State.due]
      rw [decodeFrom_cons, List.length_append]
      omega

/-- Octets are read as some text. -/
theorem decodeLossy_ne_nil {bytes : List UInt8} (h : bytes ≠ []) : decodeLossy bytes ≠ [] := by
  cases bytes with
  | nil => exact absurd rfl h
  | cons b rest =>
      have hstep := (length_utf8Step .idle b.toNat).1
      have hrest := due_le_length_decodeFrom rest (utf8Step .idle b.toNat).2
      apply List.ne_nil_of_length_pos
      rw [decodeLossy, decodeFrom_cons, List.length_append]
      omega

/-! ## A character -/

/-- An octet of a character that is not ASCII is none itself. -/
theorem le_of_mem_utf8EncodeChar {c : Char} (hc : 0x80 ≤ c.val.toNat) {b : UInt8}
    (hb : b ∈ String.utf8EncodeChar c) : 0x80 ≤ b.toNat := by
  have hrange := toNat_range c
  have hoctet : ∀ n, 0x80 ≤ n → n < 256 → 0x80 ≤ (UInt8.ofNat n).toNat := fun n hlow hhigh => by
    rw [UInt8.toNat_ofNat_of_lt' hhigh]
    exact hlow
  unfold String.utf8EncodeChar at hb
  generalize c.val.toNat = v at hrange hc hb
  simp only at hb
  split_ifs at hb with one two three
  · omega
  all_goals
    simp only [List.mem_cons, List.not_mem_nil, or_false] at hb
    rcases hb with rfl | rfl | rfl | rfl
    all_goals exact hoctet _ (by omega) (by omega)

/-- The first of them continues no other character. -/
theorem exists_utf8EncodeChar_of_le {c : Char} (hc : 0x80 ≤ c.val.toNat) :
    ∃ b others, String.utf8EncodeChar c = b :: others ∧ 0xBF < b.toNat := by
  have hrange := toNat_range c
  have hoctet : ∀ n < 256, (UInt8.ofNat n).toNat = n := fun n hn => UInt8.toNat_ofNat_of_lt' hn
  unfold String.utf8EncodeChar
  generalize c.val.toNat = v at hrange hc
  simp only
  split_ifs with one two three
  · omega
  all_goals
    refine ⟨_, _, rfl, ?_⟩
    rw [hoctet _ (by omega)]
    omega

/-- The first octet of a character continues no other one. -/
theorem exists_utf8EncodeChar (c : Char) : ∃ b others, String.utf8EncodeChar c = b :: others ∧
    (b.toNat < 0x80 ∨ 0xBF < b.toNat) := by
  by_cases hc : c.val.toNat < 0x80
  · refine ⟨_, _, utf8EncodeChar_ascii hc, Or.inl ?_⟩
    rw [UInt8.toNat_ofNat_of_lt' (by simp only [UInt8.size]; omega)]
    exact hc
  · obtain ⟨b, others, hoctets, hb⟩ := exists_utf8EncodeChar_of_le (Nat.le_of_not_lt hc)
    exact ⟨b, others, hoctets, Or.inr hb⟩

/-- An octet that continues no character breaks off the one the reader stands in. -/
theorem decodeFrom_restart {state : Utf8State} (h : state.Waits) {b : UInt8}
    (hb : b.toNat < 0x80 ∨ 0xBF < b.toNat) (rest : List UInt8) :
    decodeFrom state (b :: rest) =
      List.replicate state.due replacement ++ decodeFrom .idle (b :: rest) := by
  cases state with
  | idle => rfl
  | inside value owed low high =>
      have hout : ¬(low ≤ b.toNat ∧ b.toNat ≤ high) := by
        obtain ⟨hlow, hhigh⟩ := h
        omega
      rw [decodeFrom_cons, utf8Step_broken hout]
      rfl

/-- **A character that is written as it is lets the reader start anew.** -/
theorem decodeFrom_char {state : Utf8State} (h : state.Waits) (c : Char) (rest : List UInt8) :
    decodeFrom state (String.utf8EncodeChar c ++ rest) =
      List.replicate state.due replacement ++ c :: decodeFrom .idle rest := by
  obtain ⟨b, others, hc, hb⟩ := exists_utf8EncodeChar c
  rw [← decodeFrom_utf8EncodeChar c rest, hc, List.cons_append]
  exact decodeFrom_restart h hb _

end ObjectAccess.Text
