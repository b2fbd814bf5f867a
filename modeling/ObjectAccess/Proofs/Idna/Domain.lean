import ObjectAccess.Idna.Domain
import ObjectAccess.Proofs.Text.Pieces

/-!
# What a domain is written with

The ASCII form of a domain holds none of the characters that a domain may not hold
(`isDenied_of_mem_toAscii?`), so no separator of a URL.  A label is written as it is, with
the characters that were allowed, or it gets a coded form, which consists of the ASCII
characters of the label, hyphens, letters and digits.
-/

namespace ObjectAccess.Idna

set_option autoImplicit false

open ObjectAccess.Text

/-! ## Coded forms -/

namespace Punycode

theorem isDenied_digit : ∀ value < 36, isDenied (digit value) = false := by decide

/-- A number is written with digits. -/
theorem isDenied_of_mem_writeNumber {c : Char} : ∀ {bias place n : Nat},
    c ∈ writeNumber bias place n → isDenied c = false := by
  intro bias place n hc
  induction place, n using writeNumber.induct bias with
  | case1 place n t hlt =>
      have hle : threshold bias place ≤ 26 := threshold_le bias place
      rw [writeNumber, if_pos hlt, List.mem_singleton] at hc
      exact hc ▸ isDenied_digit n (by omega)
  | case2 place n t hge ih =>
      have hle : threshold bias place ≤ 26 := threshold_le bias place
      have hmod : (n - threshold bias place) % (36 - threshold bias place) <
          36 - threshold bias place := Nat.mod_lt _ (by omega)
      rw [writeNumber, if_neg hge] at hc
      rcases List.mem_cons.mp hc with hc | hc
      · exact hc ▸ isDenied_digit _ (by omega)
      · exact ih hc

/-- Whether nothing that was written so far is denied. -/
def Writer.IsClean (w : Writer) : Prop := ∀ c ∈ w.output, isDenied c = false

theorem Writer.IsClean.pass {basic point : Nat} {w : Writer} (h : w.IsClean) (d : Char) :
    (w.pass basic point d).IsClean := by
  unfold Writer.pass
  split
  · exact h
  · split
    · intro c hc
      rcases List.mem_append.mp hc with hc | hc
      · exact h c hc
      · exact isDenied_of_mem_writeNumber hc
    · exact h

theorem Writer.IsClean.foldl_pass {basic point : Nat} : ∀ {text : List Char} {w : Writer},
    w.IsClean → (text.foldl (Writer.pass basic point) w).IsClean
  | [], _, h => h
  | d :: _, _, h => by
      rw [List.foldl_cons]
      exact foldl_pass (h.pass d)

theorem Writer.IsClean.rounds {basic : Nat} {text : List Char} : ∀ {points : List Nat}
    {reached : Nat} {w : Writer}, w.IsClean → (Writer.rounds basic text reached w points).IsClean
  | [], _, _, h => h
  | point :: _, reached, w, h => by
      have hstart : Writer.IsClean { w with
          delta := w.delta + (point - reached) * (w.count + 1) } := h
      rw [Writer.rounds]
      exact rounds fun c hc => hstart.foldl_pass c hc

/-- The ASCII form of a text holds nothing denied if the text does not. -/
theorem isDenied_of_mem_encode {text : List Char} (h : ∀ c ∈ text, isDenied c = false) {c : Char}
    (hc : c ∈ encode text) : isDenied c = false := by
  have hbasic : ∀ d ∈ text.filter isAscii, isDenied d = false := fun d hd =>
    h d (List.mem_filter.mp hd).1
  have hwritten : (Writer.rounds (text.filter isAscii).length text 128
      ⟨0, 72, (text.filter isAscii).length, []⟩ (laterPoints text)).IsClean :=
    Writer.IsClean.rounds fun d hd => absurd hd List.not_mem_nil
  unfold encode at hc
  simp only at hc
  split at hc
  · exact hwritten c hc
  · rcases List.mem_append.mp hc with hc | hc
    · exact hbasic c hc
    · rcases List.mem_cons.mp hc with hc | hc
      · rw [hc]
        decide
      · exact hwritten c hc

end Punycode

/-! ## Domains -/

/-- A label is written without denied characters. -/
theorem Label.isDenied_of_mem_ascii {text : List Char} {l : Label}
    (hread : Label.read? text = some l) (h : ∀ c ∈ text, isDenied c = false) {c : Char}
    (hc : c ∈ l.ascii) : isDenied c = false := by
  unfold Label.read? at hread
  split at hread
  · simp only at hread
    split at hread
    · obtain ⟨_, _, rfl⟩ := Option.map_eq_some_iff.mp hread
      exact h c hc
    · cases hread
  · split at hread
    · cases hread
      exact h c hc
    · split at hread
      · cases hread
        rcases List.mem_append.mp hc with hc | hc
        · have hstart : codedStart.all (fun d => !isDenied d) = true := by decide
          simpa using List.all_eq_true.mp hstart c hc
        · exact Punycode.isDenied_of_mem_encode h hc
      · cases hread

/-- Every label that was read comes from a text. -/
theorem Label.exists_of_mem_mapM : ∀ {texts : List (List Char)} {labels : List Label},
    texts.mapM Label.read? = some labels → ∀ l ∈ labels, ∃ text ∈ texts, Label.read? text = some l
  | [], labels, h, l, hl => by
      rw [List.mapM_nil] at h
      cases h
      exact absurd hl List.not_mem_nil
  | text :: others, labels, h, l, hl => by
      rw [List.mapM_cons] at h
      obtain ⟨first, hfirst, h⟩ := Option.bind_eq_some_iff.mp h
      obtain ⟨rest, hrest, h⟩ := Option.bind_eq_some_iff.mp h
      cases h
      rcases List.mem_cons.mp hl with rfl | hl
      · exact ⟨text, List.mem_cons_self .., hfirst⟩
      · obtain ⟨other, hother, hread⟩ := exists_of_mem_mapM hrest l hl
        exact ⟨other, List.mem_cons_of_mem _ hother, hread⟩

/-- A domain is written without denied characters. -/
theorem isDenied_of_mem_toAscii? {octets : List UInt8} {domain : List Char}
    (h : toAscii? octets = some domain) {c : Char} (hc : c ∈ domain) : isDenied c = false := by
  obtain ⟨labels, hlabels, rfl⟩ := Option.map_eq_some_iff.mp h
  obtain ⟨text, _, hlabels⟩ := Option.bind_eq_some_iff.mp hlabels
  split at hlabels
  · cases hlabels
  · next hallowed =>
      obtain ⟨read, hread, hlabels⟩ := Option.bind_eq_some_iff.mp hlabels
      split at hlabels
      · cases hlabels
        rcases mem_join hc with hc | ⟨ascii, hascii, hc⟩
        · rw [hc]
          decide
        · obtain ⟨l, hl, rfl⟩ := List.mem_map.mp hascii
          obtain ⟨piece, hpiece, hpieceRead⟩ := Label.exists_of_mem_mapM hread l hl
          refine Label.isDenied_of_mem_ascii hpieceRead (fun d hd => ?_) hc
          have hd' : d ∈ text := mem_of_mem_pieces hpiece hd
          simpa using fun hdenied => hallowed (List.any_eq_true.mpr ⟨d, hd', hdenied⟩)
      · cases hlabels

end ObjectAccess.Idna
