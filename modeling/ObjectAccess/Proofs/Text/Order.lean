import ObjectAccess.Proofs.Text.Utf8

/-!
# The order of text is the order of its octets

Keys are compared character by character in the store and octet by octet on the wire.  The
two orders are the same (`octets_lt_octets_iff`).  The octets of a character are the digits of
its code point in base 64, the first one with a mark that grows with their number.  So a
character with more octets starts with a larger one, and among characters with as many octets
the first digit that differs decides.
-/

namespace ObjectAccess.Text

set_option autoImplicit false

/-! ## One octet -/

variable {a b : List UInt8} {m n : Nat}

theorem octet_cons_lt (h : m < n) (hn : n < 256) : UInt8.ofNat m :: a < UInt8.ofNat n :: b := by
  refine List.cons_lt_cons_iff.mpr (Or.inl (UInt8.lt_iff_toNat_lt.mpr ?_))
  rwa [UInt8.toNat_ofNat_of_lt' (Nat.lt_trans h hn), UInt8.toNat_ofNat_of_lt' hn]

theorem octet_cons_lt_of_eq (h : m = n) (hrest : a < b) :
    UInt8.ofNat m :: a < UInt8.ofNat n :: b :=
  List.cons_lt_cons_iff.mpr (Or.inr ⟨congrArg UInt8.ofNat h, hrest⟩)

/-! ## The digits of a code point -/

/-- How many octets follow the first one of a code point. -/
def followers (v : Nat) : Nat :=
  if v ≤ 127 then 0 else if v ≤ 2047 then 1 else if v ≤ 65535 then 2 else 3

/-- The first octet of a code point: its first digit, with the mark of its length. -/
def leader (v : Nat) : Nat :=
  if v ≤ 127 then v else if v ≤ 2047 then v / 64 + 192 else if v ≤ 65535 then v / 4096 + 224
  else v / 262144 + 240

/-- The octets of the last `k` digits of a code point. -/
def trailing (v : Nat) : Nat → List UInt8
  | 0 => []
  | k + 1 => UInt8.ofNat (v / 64 ^ k % 64 + 128) :: trailing v k

theorem utf8EncodeChar_eq (c : Char) :
    String.utf8EncodeChar c =
      UInt8.ofNat (leader c.val.toNat) :: trailing c.val.toNat (followers c.val.toNat) := by
  have hrange := toNat_range c
  unfold String.utf8EncodeChar leader followers
  generalize c.val.toNat = v at hrange
  simp only
  split
  · rfl
  · split
    · rw [Nat.mod_eq_of_lt (show v / 64 < 32 by omega)]
      simp [trailing]
    · split
      · rw [Nat.mod_eq_of_lt (show v / 4096 < 16 by omega)]
        simp [trailing]
      · rw [Nat.mod_eq_of_lt (show v / 262144 < 8 by omega)]
        simp [trailing]

variable {v w : Nat}

/-- Of two code points with the same first digits, the larger one has the larger last digits. -/
theorem trailing_append_lt (hlt : v < w) (rest other : List UInt8) :
    ∀ k, v / 64 ^ k = w / 64 ^ k → trailing v k ++ rest < trailing w k ++ other
  | 0, hfirst => by
      rw [pow_zero, Nat.div_one, Nat.div_one] at hfirst
      exact absurd hfirst hlt.ne
  | k + 1, hfirst => by
      rw [pow_succ, ← Nat.div_div_eq_div_mul, ← Nat.div_div_eq_div_mul] at hfirst
      have hle : v / 64 ^ k ≤ w / 64 ^ k := Nat.div_le_div_right hlt.le
      rw [trailing, trailing, List.cons_append, List.cons_append]
      rcases hle.lt_or_eq with hdigit | hdigit
      · exact octet_cons_lt (by omega) (by omega)
      · exact octet_cons_lt_of_eq (by rw [hdigit]) (trailing_append_lt hlt rest other k hdigit)

theorem leader_lt_256 (hv : v < 0x110000) : leader v < 256 := by
  unfold leader
  split_ifs <;> omega

/-- A larger code point has a larger first octet, or one of the same length and first digit. -/
theorem leader_lt_or (hlt : v < w) (hw : w < 0x110000) : leader v < leader w ∨
    leader v = leader w ∧ followers v = followers w ∧
      v / 64 ^ followers v = w / 64 ^ followers v := by
  unfold leader followers
  split_ifs <;> norm_num <;> omega

/-! ## One character -/

/-- The octets of a smaller character come before those of a larger one, whatever follows. -/
theorem utf8EncodeChar_append_lt {c d : Char} (h : c < d) (rest other : List UInt8) :
    String.utf8EncodeChar c ++ rest < String.utf8EncodeChar d ++ other := by
  have hlt : c.val.toNat < d.val.toNat := UInt32.lt_iff_toNat_lt.mp h
  have hd : d.val.toNat < 0x110000 := by
    have hrange := toNat_range d
    omega
  rw [utf8EncodeChar_eq, utf8EncodeChar_eq, List.cons_append, List.cons_append]
  rcases leader_lt_or hlt hd with hleader | ⟨hleader, hlength, hfirst⟩
  · exact octet_cons_lt hleader (leader_lt_256 hd)
  · rw [← hlength]
    exact octet_cons_lt_of_eq hleader (trailing_append_lt hlt rest other _ hfirst)

/-! ## Text -/

/-- The octets of a smaller text come before those of a larger one. -/
theorem octets_lt_octets : ∀ {s t : List Char}, s < t → octets s < octets t
  | _, [], h => absurd h (List.not_lt_nil _)
  | [], d :: t, _ => by
      rw [octets_nil, octets_cons]
      cases hoctets : String.utf8EncodeChar d with
      | nil => exact absurd (congrArg List.length hoctets) (by simp [d.utf8Size_pos.ne'])
      | cons x xs => exact List.nil_lt_cons _ _
  | c :: s, d :: t, h => by
      rw [octets_cons, octets_cons]
      rcases List.cons_lt_cons_iff.mp h with hchar | ⟨rfl, hrest⟩
      · exact utf8EncodeChar_append_lt hchar _ _
      · exact List.append_left_lt (octets_lt_octets hrest)

/-- The order of text is the order of its octets. -/
theorem octets_lt_octets_iff {s t : List Char} : octets s < octets t ↔ s < t := by
  refine ⟨fun h => ?_, octets_lt_octets⟩
  rcases lt_trichotomy s t with hlt | rfl | hgt
  · exact hlt
  · exact absurd h (List.lt_irrefl _)
  · exact absurd (octets_lt_octets hgt) (List.lt_asymm h)

end ObjectAccess.Text
