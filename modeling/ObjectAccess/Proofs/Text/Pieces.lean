import Mathlib
import ObjectAccess.Text.Blank
import ObjectAccess.Text.Pieces

/-!
# Pieces come back

A text that was joined from pieces without the separator is cut into the same
pieces again (`pieces_join`), so a joined text determines its pieces
(`join_injective`).  The one exception is that nothing at all and a single empty
piece are joined to the same text.

The same holds for one cut, at the first separator (`cut?_eq_some_iff`) or at the
last one (`cutLast?_eq_some_iff`), and for a limited number of pieces, where only the
last piece may hold separators (`piecesUpTo_append`).  Words are pieces between white space, and
what is put together from them holds no other white space than the space
(`not_mem_collapse`).  A search finds a text just where it stands between two parts of the
other (`occursIn_iff`), and a text without the separator stands in one of the pieces
(`infix_iff_exists_piece`).
-/

namespace ObjectAccess.Text

set_option autoImplicit false

variable {sep : Char}

/-! ## Pieces -/

theorem pieces_of_not_mem : ∀ {text : List Char}, sep ∉ text → pieces sep text = [text]
  | [], _ => rfl
  | c :: rest, h => by
      have hc : c ≠ sep := fun e => h (e ▸ List.mem_cons_self ..)
      have hrest : sep ∉ rest := fun hm => h (List.mem_cons_of_mem _ hm)
      rw [pieces, if_neg hc, pieces_of_not_mem hrest]

/-- The text before the first separator is the first piece. -/
theorem pieces_append (rest : List Char) : ∀ {piece : List Char}, sep ∉ piece →
    pieces sep (piece ++ sep :: rest) = piece :: pieces sep rest
  | [], _ => by simp [pieces]
  | c :: others, h => by
      have hc : c ≠ sep := fun e => h (e ▸ List.mem_cons_self ..)
      have hothers : sep ∉ others := fun hm => h (List.mem_cons_of_mem _ hm)
      rw [List.cons_append, pieces, if_neg hc, pieces_append rest hothers]

/-- No piece holds the separator. -/
theorem not_mem_of_mem_pieces : ∀ {text piece : List Char}, piece ∈ pieces sep text → sep ∉ piece
  | [], piece, h => by
      rw [pieces, List.mem_singleton] at h
      simp [h]
  | c :: rest, piece, h => by
      unfold pieces at h
      split at h
      · rcases List.mem_cons.mp h with h | h
        · simp [h]
        · exact not_mem_of_mem_pieces h
      · next hc =>
          split at h
          · next hnil => exact absurd hnil (pieces_ne_nil sep rest)
          · next first others hrest =>
              rcases List.mem_cons.mp h with h | h
              · have hfirst : sep ∉ first :=
                  not_mem_of_mem_pieces (hrest ▸ List.mem_cons_self ..)
                simp [h, hfirst, Ne.symm hc]
              · exact not_mem_of_mem_pieces (hrest ▸ List.mem_cons_of_mem _ h)

/-! ## Joining -/

theorem join_cons (piece : List Char) {others : List (List Char)} (h : others ≠ []) :
    join sep (piece :: others) = piece ++ sep :: join sep others := by
  cases others with
  | nil => exact absurd rfl h
  | cons _ _ => rfl

theorem join_append {ps qs : List (List Char)} (hps : ps ≠ []) (hqs : qs ≠ []) :
    join sep (ps ++ qs) = join sep ps ++ sep :: join sep qs := by
  induction ps with
  | nil => exact absurd rfl hps
  | cons piece others ih =>
      by_cases hothers : others = []
      · rw [hothers, List.singleton_append, join_cons piece hqs]
        rfl
      · have hne : others ++ qs ≠ [] := by simp [hothers]
        rw [List.cons_append, join_cons piece hne, ih hothers, join_cons piece hothers,
          List.append_assoc, List.cons_append]

/-- Cutting undoes joining. -/
theorem pieces_join : ∀ {ps : List (List Char)}, ps ≠ [] → (∀ p ∈ ps, sep ∉ p) →
    pieces sep (join sep ps) = ps
  | [], h, _ => absurd rfl h
  | [piece], _, h => pieces_of_not_mem (h piece (List.mem_cons_self ..))
  | piece :: next :: others, _, h => by
      have hpiece : sep ∉ piece := h piece (List.mem_cons_self ..)
      have hothers : ∀ p ∈ next :: others, sep ∉ p := fun p hp => h p (List.mem_cons_of_mem _ hp)
      rw [join_cons piece (List.cons_ne_nil _ _), pieces_append _ hpiece,
        pieces_join (List.cons_ne_nil _ _) hothers]

/-- Joining the same text from pieces takes the same pieces. -/
theorem join_injective {ps qs : List (List Char)} (hps : ps ≠ []) (hqs : qs ≠ [])
    (cleanPs : ∀ p ∈ ps, sep ∉ p) (cleanQs : ∀ q ∈ qs, sep ∉ q)
    (h : join sep ps = join sep qs) : ps = qs := by
  rw [← pieces_join hps cleanPs, h, pieces_join hqs cleanQs]

/-- Pieces that are not empty are determined by the joined text even if there are none. -/
theorem join_injective_of_ne_nil {ps qs : List (List Char)} (fullPs : [] ∉ ps) (fullQs : [] ∉ qs)
    (cleanPs : ∀ p ∈ ps, sep ∉ p) (cleanQs : ∀ q ∈ qs, sep ∉ q)
    (h : join sep ps = join sep qs) : ps = qs := by
  have join_ne_nil : ∀ {rs : List (List Char)}, rs ≠ [] → [] ∉ rs → join sep rs ≠ [] := by
    intro rs hne hfull hnil
    cases rs with
    | nil => exact hne rfl
    | cons r others =>
        cases others with
        | nil => exact hfull (hnil ▸ List.mem_cons_self ..)
        | cons _ _ => simp [join] at hnil
  by_cases hps : ps = [] <;> by_cases hqs : qs = []
  · rw [hps, hqs]
  · exact absurd (h.symm.trans (by rw [hps]; rfl)) (join_ne_nil hqs fullQs)
  · exact absurd (h.trans (by rw [hqs]; rfl)) (join_ne_nil hps fullPs)
  · exact join_injective hps hqs cleanPs cleanQs h

theorem mem_join_of_mem {c : Char} {piece : List Char} (hc : c ∈ piece) :
    ∀ {ps : List (List Char)}, piece ∈ ps → c ∈ join sep ps
  | [], h => absurd h List.not_mem_nil
  | [_], h => List.mem_singleton.mp h ▸ hc
  | first :: next :: others, h => by
      rw [join_cons first (List.cons_ne_nil _ _)]
      rcases List.mem_cons.mp h with h | h
      · exact List.mem_append_left _ (h ▸ hc)
      · exact List.mem_append_right _ (List.mem_cons_of_mem _ (mem_join_of_mem hc h))

/-- A piece holds nothing that the text does not. -/
theorem mem_of_mem_pieces {c : Char} {text piece : List Char} (h : piece ∈ pieces sep text)
    (hc : c ∈ piece) : c ∈ text := by
  rw [← join_pieces sep text]
  exact mem_join_of_mem hc h

/-- What a joined text holds comes from a piece or is the separator. -/
theorem mem_join {c : Char} : ∀ {ps : List (List Char)}, c ∈ join sep ps →
    c = sep ∨ ∃ p ∈ ps, c ∈ p
  | [], h => by simp [join] at h
  | [piece], h => Or.inr ⟨piece, List.mem_cons_self .., h⟩
  | piece :: next :: others, h => by
      rw [join_cons piece (List.cons_ne_nil _ _)] at h
      rcases List.mem_append.mp h with h | h
      · exact Or.inr ⟨piece, List.mem_cons_self .., h⟩
      · rcases List.mem_cons.mp h with h | h
        · exact Or.inl h
        · rcases mem_join h with h | ⟨p, hp, hc⟩
          · exact Or.inl h
          · exact Or.inr ⟨p, List.mem_cons_of_mem _ hp, hc⟩

/-- What holds of the separator and in every piece holds in the joined text. -/
theorem forall_mem_join {P : Char → Prop} {ps : List (List Char)} (hsep : P sep)
    (h : ∀ p ∈ ps, ∀ c ∈ p, P c) : ∀ c ∈ join sep ps, P c := by
  intro c hc
  rcases mem_join hc with rfl | ⟨p, hp, hcp⟩
  · exact hsep
  · exact h p hp c hcp

/-- A character other than the separator that is in no piece is not in the joined text. -/
theorem not_mem_join {c : Char} {ps : List (List Char)} (hsep : c ≠ sep)
    (h : ∀ p ∈ ps, c ∉ p) : c ∉ join sep ps := by
  have hne : ∀ d ∈ join sep ps, c ≠ d :=
    forall_mem_join hsep fun p hp d hd e => h p hp (e ▸ hd)
  intro hc
  exact hne c hc rfl

/-! ## One cut -/

/-- A text is cut at its first separator. -/
theorem cut?_eq_some_iff : ∀ {text before after : List Char},
    cut? sep text = some (before, after) ↔ text = before ++ sep :: after ∧ sep ∉ before
  | [], before, after => by simp [cut?]
  | c :: rest, before, after => by
      unfold cut?
      split
      · next hc =>
          subst hc
          cases before with
          | nil => simp
          | cons b others =>
              simp only [Option.some.injEq, Prod.mk.injEq, List.nil_eq, reduceCtorEq, false_and,
                List.cons_append, List.cons.injEq, List.mem_cons, not_or, false_iff, not_and]
              exact fun h hne => absurd h.1 hne
      · next hc =>
          simp only [Option.map_eq_some_iff, Prod.exists, Prod.mk.injEq]
          constructor
          · rintro ⟨b, a, hcut, rfl, rfl⟩
            obtain ⟨rfl, hb⟩ := cut?_eq_some_iff.mp hcut
            exact ⟨rfl, by simp [Ne.symm hc, hb]⟩
          · rintro ⟨htext, hbefore⟩
            cases before with
            | nil => exact absurd (List.cons.inj htext).1 hc
            | cons b others =>
                obtain ⟨rfl, rfl⟩ := List.cons.inj htext
                have hothers : sep ∉ others := fun hm => hbefore (List.mem_cons_of_mem _ hm)
                exact ⟨others, after, cut?_eq_some_iff.mpr ⟨rfl, hothers⟩, rfl, rfl⟩

theorem cut?_append {before : List Char} (after : List Char) (h : sep ∉ before) :
    cut? sep (before ++ sep :: after) = some (before, after) :=
  cut?_eq_some_iff.mpr ⟨rfl, h⟩

theorem cut?_eq_none_iff : ∀ {text : List Char}, cut? sep text = none ↔ sep ∉ text
  | [] => by simp [cut?]
  | c :: rest => by
      unfold cut?
      split
      · next hc => simp [hc]
      · next hc => simp [cut?_eq_none_iff, Ne.symm hc]

theorem cutLast?_eq_none_iff {text : List Char} : cutLast? sep text = none ↔ sep ∉ text := by
  induction text with
  | nil => simp [cutLast?]
  | cons c rest ih =>
      rw [cutLast?]
      cases hrest : cutLast? sep rest with
      | some parts =>
          have hmem : sep ∈ rest := by
            by_contra hnot
            rw [ih.mpr hnot] at hrest
            cases hrest
          exact iff_of_false (Option.some_ne_none _) fun h => h (List.mem_cons_of_mem _ hmem)
      | none =>
          have hnot := ih.mp hrest
          by_cases hc : c = sep
          · simp [hc]
          · simp [hc, hnot, Ne.symm hc]

theorem cutLast?_append (before : List Char) {after : List Char} (h : sep ∉ after) :
    cutLast? sep (before ++ sep :: after) = some (before, after) := by
  induction before with
  | nil => rw [List.nil_append, cutLast?, cutLast?_eq_none_iff.mpr h, if_pos rfl]
  | cons c others ih => rw [List.cons_append, cutLast?, ih]

/-- A text is cut at its last separator. -/
theorem cutLast?_eq_some_iff {text before after : List Char} :
    cutLast? sep text = some (before, after) ↔ text = before ++ sep :: after ∧ sep ∉ after := by
  refine ⟨fun h => ?_, fun ⟨htext, hafter⟩ => htext ▸ cutLast?_append before hafter⟩
  induction text generalizing before with
  | nil => cases h
  | cons c rest ih =>
      rw [cutLast?] at h
      cases hrest : cutLast? sep rest with
      | some parts =>
          obtain ⟨b, a⟩ := parts
          rw [hrest] at h
          cases h
          obtain ⟨rfl, hafter⟩ := ih hrest
          exact ⟨rfl, hafter⟩
      | none =>
          simp only [hrest, Option.ite_none_right_eq_some, Option.some.injEq, Prod.mk.injEq] at h
          obtain ⟨rfl, rfl, rfl⟩ := h
          exact ⟨rfl, cutLast?_eq_none_iff.mp hrest⟩

/-- With room for more pieces, the text before the first separator is a piece of its own. -/
theorem piecesUpTo_append (limit : Nat) (rest : List Char) : ∀ {piece : List Char}, sep ∉ piece →
    piecesUpTo sep (limit + 2) (piece ++ sep :: rest) = piece :: piecesUpTo sep (limit + 1) rest
  | [], _ => by simp [piecesUpTo]
  | c :: others, h => by
      have hc : c ≠ sep := fun e => h (e ▸ List.mem_cons_self ..)
      have hothers : sep ∉ others := fun hm => h (List.mem_cons_of_mem _ hm)
      rw [List.cons_append, piecesUpTo, if_neg hc, piecesUpTo_append limit rest hothers]

/-- The separators of a text are those between its pieces and those that the last piece keeps; no
other piece holds one. -/
theorem exists_piecesUpTo (sep : Char) (limit : Nat) (text : List Char) :
    ∃ firsts last, piecesUpTo sep (limit + 1) text = firsts ++ [last] ∧
      text.count sep = firsts.length + last.count sep ∧ ∀ piece ∈ firsts, sep ∉ piece := by
  induction text generalizing limit with
  | nil => exact ⟨[], [], by cases limit <;> rfl, rfl, fun _ h => absurd h List.not_mem_nil⟩
  | cons c rest ih =>
      cases limit with
      | zero => exact ⟨[], c :: rest, rfl, by simp, fun _ h => absurd h List.not_mem_nil⟩
      | succ limit =>
          by_cases hc : c = sep
          · obtain ⟨firsts, last, hpieces, hcount, hclean⟩ := ih limit
            refine ⟨[] :: firsts, last, ?_, ?_, ?_⟩
            · rw [piecesUpTo, if_pos hc, hpieces]
              rfl
            · rw [hc, List.count_cons_self, hcount, List.length_cons]
              omega
            · exact List.forall_mem_cons.mpr ⟨List.not_mem_nil, hclean⟩
          · obtain ⟨firsts, last, hpieces, hcount, hclean⟩ := ih (limit + 1)
            have hrest : (c :: rest).count sep = rest.count sep := List.count_cons_of_ne hc
            cases firsts with
            | nil =>
                refine ⟨[], c :: last, ?_, ?_, fun _ h => absurd h List.not_mem_nil⟩
                · rw [piecesUpTo, if_neg hc, hpieces]
                  rfl
                · rw [hrest, hcount, List.count_cons_of_ne hc]
            | cons first others =>
                obtain ⟨hfirst, hothers⟩ := List.forall_mem_cons.mp hclean
                refine ⟨(c :: first) :: others, last, ?_, ?_, ?_⟩
                · rw [piecesUpTo, if_neg hc, hpieces]
                  rfl
                · rw [hrest, hcount]
                  rfl
                · refine List.forall_mem_cons.mpr ⟨?_, hothers⟩
                  simp [Ne.symm hc, hfirst]

/-! ## Trimming -/

/-- What is left after trimming the end is what the text starts with. -/
theorem dropEndWhile_isPrefix (p : Char → Bool) (text : List Char) :
    dropEndWhile p text <+: text := by
  have h : (text.reverse.dropWhile p).reverse <+: text.reverse.reverse :=
    List.reverse_prefix.mpr (List.dropWhile_suffix p)
  rwa [List.reverse_reverse] at h

/-! ## Words -/

/-- A word holds no white space. -/
theorem isBlank_of_mem_words : ∀ {text word : List Char} {c : Char}, word ∈ words text →
    c ∈ word → isBlank c = false
  | [], _, _, hword, _ => by simp [words] at hword
  | d :: rest, word, c, hword, hc => by
      have ih : ∀ {word : List Char}, word ∈ words rest → c ∈ word → isBlank c = false :=
        fun hword hc => isBlank_of_mem_words hword hc
      unfold words at hword
      split at hword
      · exact ih hword hc
      · next hd =>
          have alone : c ∈ [d] → isBlank c = false := fun h => by
            rw [List.mem_singleton.mp h]
            simpa using hd
          split at hword
          · exact alone (List.mem_singleton.mp hword ▸ hc)
          · next e rest' =>
              split at hword
              · rcases List.mem_cons.mp hword with h | h
                · exact alone (h ▸ hc)
                · exact ih h hc
              · split at hword
                · exact alone (List.mem_singleton.mp hword ▸ hc)
                · next first others hwords =>
                    rcases List.mem_cons.mp hword with h | h
                    · rcases List.mem_cons.mp (h ▸ hc) with hcd | hcfirst
                      · exact alone (List.mem_singleton.mpr hcd)
                      · exact ih (hwords ▸ List.mem_cons_self ..) hcfirst
                    · exact ih (hwords ▸ List.mem_cons_of_mem _ h) hc

/-- The only white space of a collapsed text is the space. -/
theorem not_mem_collapse {c : Char} (hblank : isBlank c = true) (hspace : c ≠ ' ')
    (text : List Char) : c ∉ collapse text := by
  have notIn : ∀ w ∈ words text, c ∉ w := fun w hw hc => by
    simp [isBlank_of_mem_words hw hc] at hblank
  unfold collapse
  generalize words text = ws at notIn
  induction ws with
  | nil => simp [List.intercalate]
  | cons w others ih =>
      have hw : c ∉ w := notIn w (List.mem_cons_self ..)
      have hothers : c ∉ [' '].intercalate others :=
        ih fun v hv => notIn v (List.mem_cons_of_mem _ hv)
      cases others with
      | nil => simpa [List.intercalate] using hw
      | cons v more =>
          simp only [List.intercalate, List.intersperse_cons_cons, List.flatten_cons] at hothers ⊢
          simp only [List.mem_append, List.mem_singleton, not_or]
          exact ⟨hw, hspace, hothers⟩

/-! ## Searching -/

/-- A text occurs in another just if it stands somewhere between two parts of it. -/
theorem occursIn_iff {needle text : List Char} :
    occursIn needle text = true ↔ needle <:+: text := by
  induction text with
  | nil =>
      rw [occursIn, List.isEmpty_iff]
      exact List.infix_nil.symm
  | cons c rest ih =>
      rw [occursIn, Bool.or_eq_true, List.isPrefixOf_iff_prefix, ih, List.infix_cons_iff]

/-- A text without the separator stands on one side of it. -/
theorem infix_append_sep_iff {needle a b : List Char} (h : sep ∉ needle) :
    needle <:+: a ++ sep :: b ↔ needle <:+: a ∨ needle <:+: b := by
  constructor
  · rintro ⟨before, after, htext⟩
    rcases List.append_eq_append_iff.mp htext with ⟨between, ha, -⟩ | ⟨between, hfront, hback⟩
    · exact Or.inl ⟨before, between, ha.symm⟩
    · cases between with
      | nil => exact Or.inl ⟨before, [], by simpa using hfront⟩
      | cons c others =>
          obtain ⟨rfl, hb⟩ := List.cons.inj hback
          rcases List.append_eq_append_iff.mp hfront with ⟨x, -, hneedle⟩ | ⟨x, -, hothers⟩
          · exact absurd (hneedle ▸ List.mem_append_right x (List.mem_cons_self ..)) h
          · cases x with
            | nil =>
                obtain rfl : sep :: others = needle := hothers
                exact absurd (List.mem_cons_self ..) h
            | cons d more =>
                obtain ⟨-, rfl⟩ := List.cons.inj hothers
                exact Or.inr ⟨more, after, hb.symm⟩
  · rintro (hneedle | hneedle)
    · exact hneedle.trans (List.prefix_append a (sep :: b)).isInfix
    · exact hneedle.trans ((List.suffix_cons sep b).trans (List.suffix_append a _)).isInfix

/-- A text without the separator stands in one of the pieces. -/
theorem infix_iff_exists_piece {needle text : List Char} (h : sep ∉ needle) :
    needle <:+: text ↔ ∃ piece ∈ pieces sep text, needle <:+: piece := by
  have hjoin : ∀ ps : List (List Char), ps ≠ [] →
      (needle <:+: join sep ps ↔ ∃ piece ∈ ps, needle <:+: piece) := by
    intro ps hps
    induction ps with
    | nil => exact absurd rfl hps
    | cons piece others ih =>
        by_cases hothers : others = []
        · simp [hothers, join]
        · rw [join_cons piece hothers, infix_append_sep_iff h, ih hothers, List.exists_mem_cons_iff]
  rw [← hjoin _ (pieces_ne_nil sep text), join_pieces]

end ObjectAccess.Text
