import ObjectAccess.Proofs.Text.Utf8
import ObjectAccess.Text.Casing

/-!
# Small letters first

Header names are compared in two ways: the headers of a request are looked up with the letters of
ASCII made small, and the canonical text has names in lower case for every script.  The second form
does not change if the first is taken before (`lower_map_toLower`), so names that are the same to
the look-up are the same in the canonical text.  Besides the table of letters this concerns the
neighbours of a capital sigma, whose form depends on what stands before and after it.
-/

namespace ObjectAccess.Text

set_option autoImplicit false

/-! ## Letters of ASCII -/

/-- Casing ignores no letter of ASCII. -/
theorem caseIgnorableRanges_apart : ∀ range ∈ caseIgnorableRanges,
    (range.2 < 65 ∨ 90 < range.1) ∧ (range.2 < 97 ∨ 122 < range.1) := by
  decide +kernel

/-- A small letter of ASCII has no other lower-case form. -/
theorem lowerRuns_apart : ∀ run ∈ lowerRuns, run.last < 97 ∨ 122 < run.first := by
  decide +kernel

variable {c : Char}

theorem caseIgnorableRanges_has
    (h : (65 ≤ c.toNat ∧ c.toNat ≤ 90) ∨ (97 ≤ c.toNat ∧ c.toNat ≤ 122)) :
    caseIgnorableRanges.has c = false := by
  refine List.any_eq_false.mpr fun range hrange => ?_
  have hapart := caseIgnorableRanges_apart range hrange
  simp only [Bool.and_eq_true, decide_eq_true_eq]
  omega

/-- A letter of ASCII is cased. -/
theorem casedRanges_has
    (h : (65 ≤ c.toNat ∧ c.toNat ≤ 90) ∨ (97 ≤ c.toNat ∧ c.toNat ≤ 122)) :
    casedRanges.has c = true := by
  rcases h with ⟨hlow, hhigh⟩ | ⟨hlow, hhigh⟩
  · refine List.any_eq_true.mpr ⟨(0x41, 0x5A), by simp [casedRanges], ?_⟩
    simp [hlow, hhigh]
  · refine List.any_eq_true.mpr ⟨(0x61, 0x7A), by simp [casedRanges], ?_⟩
    simp [hlow, hhigh]

theorem lowerChar_small (hlow : 97 ≤ c.toNat) (hhigh : c.toNat ≤ 122) :
    lowerChar c = [c] := by
  have hnone : lowerRuns.find? (·.covers c) = none := by
    refine List.find?_eq_none.mpr fun run hrun => ?_
    have hapart := lowerRuns_apart run hrun
    simp only [CaseRun.covers, Bool.and_eq_true, decide_eq_true_eq]
    omega
  have hdotted : c ≠ '\u0130' := fun h => absurd hhigh (h ▸ by decide)
  rw [lowerChar, if_neg hdotted, hnone]

theorem lowerChar_capital (hlow : 65 ≤ c.toNat) (hhigh : c.toNat ≤ 90) :
    lowerChar c = [Char.ofNat (c.toNat + 32)] := by
  have hfirst : lowerRuns.find? (·.covers c) = some ⟨0x41, 0x5A, 1, 32⟩ := by
    refine List.find?_cons_of_pos ?_
    simp [CaseRun.covers, hlow, hhigh, Nat.mod_one]
  have hdotted : c ≠ '\u0130' := fun h => absurd hhigh (h ▸ by decide)
  rw [lowerChar, if_neg hdotted, hfirst]
  rfl

/-- All that casing asks about a character has the same answer for its small letter. -/
theorem casing_toLower (c : Char) :
    lowerChar c.toLower = lowerChar c ∧ (c.toLower = 'Σ' ↔ c = 'Σ') ∧
      casedRanges.has c.toLower = casedRanges.has c ∧
      caseIgnorableRanges.has c.toLower = caseIgnorableRanges.has c := by
  by_cases hletter : c.val ≥ 'A'.val ∧ c.val ≤ 'Z'.val
  · have hlow : 65 ≤ c.toNat := UInt32.le_iff_toNat_le.mp hletter.1
    have hhigh : c.toNat ≤ 90 := UInt32.le_iff_toNat_le.mp hletter.2
    have hsmall : c.toLower.toNat = c.toNat + 32 := by
      rw [Char.toLower, dif_pos hletter]
      change (c.val + 32).toNat = c.val.toNat + 32
      rw [UInt32.toNat_add]
      have hfits : c.val.toNat + 32 < 2 ^ 32 :=
        Nat.lt_of_le_of_lt (Nat.add_le_add_right hhigh 32) (by decide)
      exact Nat.mod_eq_of_lt hfits
    have hsigma : ∀ d : Char, d.toNat ≤ 122 → d ≠ 'Σ' := fun d hd h => absurd hd (h ▸ by decide)
    refine ⟨?_, iff_of_false (hsigma _ (by omega)) (hsigma _ (by omega)), ?_, ?_⟩
    · rw [lowerChar_capital hlow hhigh, lowerChar_small (by omega) (by omega), ← hsmall,
        Char.ofNat_toNat]
    · rw [casedRanges_has (by omega), casedRanges_has (by omega)]
    · rw [caseIgnorableRanges_has (by omega), caseIgnorableRanges_has (by omega)]
  · rw [Char.toLower, dif_neg hletter]
    exact ⟨rfl, Iff.rfl, rfl, rfl⟩

/-! ## Texts -/

theorem startsCased_map_toLower (text : List Char) :
    startsCased (text.map Char.toLower) = startsCased text := by
  have hignorable : caseIgnorableRanges.has ∘ Char.toLower = caseIgnorableRanges.has :=
    funext fun c => (casing_toLower c).2.2.2
  unfold startsCased
  rw [List.dropWhile_map, hignorable]
  cases text.dropWhile caseIgnorableRanges.has with
  | nil => rfl
  | cons c rest => exact (casing_toLower c).2.2.1

theorem lowerAfter_map_toLower (before text : List Char) :
    lowerAfter (before.map Char.toLower) (text.map Char.toLower) = lowerAfter before text := by
  induction text generalizing before with
  | nil => rfl
  | cons c rest ih =>
      obtain ⟨hchar, hsigma, -, -⟩ := casing_toLower c
      have hrest := ih (c :: before)
      rw [List.map_cons] at hrest
      rw [List.map_cons, lowerAfter, lowerAfter, hrest, hchar, startsCased_map_toLower,
        startsCased_map_toLower]
      simp only [hsigma]

/-- **Making the letters of ASCII small does not change the lower-case form.** -/
theorem lower_map_toLower (text : List Char) : lower (text.map Char.toLower) = lower text :=
  lowerAfter_map_toLower [] text

end ObjectAccess.Text
