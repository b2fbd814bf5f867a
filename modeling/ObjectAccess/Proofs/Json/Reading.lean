import ObjectAccess.Json.Record
import ObjectAccess.Proofs.Json.Layout
import ObjectAccess.Proofs.Json.Quoted
import ObjectAccess.Proofs.Steps

/-!
# Values of a known form are read back

A decoder recovers something from a JSON value if it reads it from the text of the value in every
layout, and leaves what follows the text (`Recovers`).  This is proved once for each way in which
decoders are put together: a list is recovered if its items are, a dictionary if its values are,
and a record if its fields are filled one after the other until it is complete (`Shape.Fills`).

Every value recovered here starts with a character that is no blank and no closing bracket, so
the reader of a list does not take it for the end.
-/

namespace ObjectAccess.Json

set_option autoImplicit false

variable {α β σ : Type}

/-- Whether a decoder reads something from the text of a value, in every layout. -/
structure Recovers (d : Decoder α) (v : Value) (x : α) : Prop where
  starts : ∀ (l : Layout) level, ∃ c more, l.write level v = c :: more ∧
    isJsonBlank c = false ∧ c ≠ ']'
  reads : ∀ (l : Layout) level blanks rest, Blank blanks →
    d (blanks ++ (l.write level v ++ rest)) = .ok (x, rest)

theorem skipBlank_cons {c : Char} (h : isJsonBlank c = false) (rest : List Char) :
    skipBlank (c :: rest) = c :: rest :=
  List.dropWhile_cons_of_neg (by simp [h])

/-- After blanks, a text starts with its first character. -/
theorem skipBlank_append_cons {blanks : List Char} (h : Blank blanks) {c : Char}
    (hc : isJsonBlank c = false) (rest : List Char) :
    skipBlank (blanks ++ c :: rest) = c :: rest := by
  rw [skipBlank_append h, skipBlank_cons hc]

namespace Recovers

variable {d : Decoder α} {v : Value} {x : α}

/-- Without blanks in front. -/
theorem reads_here (h : Recovers d v x) (l : Layout) (level : Nat) (rest : List Char) :
    d (l.write level v ++ rest) = .ok (x, rest) :=
  h.reads l level [] rest blank_nil

/-- What is made of a value is recovered if the value is. -/
theorem map (h : Recovers d v x) (f : α → β) :
    Recovers (fun text => (d text).map fun (x, rest) => (f x, rest)) v (f x) where
  starts := h.starts
  reads l level blanks rest hblanks := by
    simp only [h.reads l level blanks rest hblanks, Except.map]

/-- A whole text in a layout is read. -/
theorem decodeText (h : Recovers d v x) (l : Layout) :
    decodeText d (String.ofList (l.write 0 v)) = .ok x := by
  have hread := h.reads_here l 0 []
  rw [List.append_nil] at hread
  rw [Json.decodeText, readWhole, String.toList_ofList, hread]
  rfl

end Recovers

/-! ## Texts and variants -/

theorem textNamed_quoted (expected s : String) (blanks rest : List Char) (h : Blank blanks) :
    textNamed expected (blanks ++ (quoted s ++ rest)) = .ok (s, rest) := by
  have hquoted : quoted s ++ rest = '"' :: (s.toList.flatMap escapeChar ++ '"' :: rest) := by
    simp [quoted]
  rw [textNamed, hquoted, skipBlank_append_cons h (by decide)]
  exact quotedText_quoted s rest

theorem Recovers.string (s : String) : Recovers string (.text s) s where
  starts _ _ := ⟨_, _, rfl, by decide, by decide⟩
  reads l level blanks rest hblanks := textNamed_quoted _ s blanks rest hblanks

/-- A variant is recovered from its name. -/
theorem Recovers.variant {known : List (String × α)} {name : String} {entry : String × α}
    (h : known.find? (·.1 = name) = some entry) :
    Recovers (Json.variant known) (.text name) entry.2 where
  starts _ _ := ⟨_, _, rfl, by decide, by decide⟩
  reads l level blanks rest hblanks := by
    have hname := textNamed_quoted "variant identifier" name [] rest blank_nil
    have hstart : skipBlank (blanks ++ (quoted name ++ rest)) = quoted name ++ rest :=
      skipBlank_append_cons hblanks (by decide) _
    rw [Layout.write, Json.variant, hstart]
    change variantName known "variant identifier" (quoted name ++ rest) = _
    rw [variantName, ← List.nil_append (quoted name ++ rest), hname]
    simp only [bind, Except.bind, h]

/-- A value that is not `null` is recovered where `null` might stand. -/
theorem Recovers.optional {d : Decoder α} {v : Value} {x : α} (h : Recovers d v x)
    (hnull : ∀ (l : Layout) level more, l.write level v ≠ 'n' :: more) :
    Recovers (Json.optional d) v (some x) where
  starts := h.starts
  reads l level blanks rest hblanks := by
    obtain ⟨c, more, hwrite, hblank, -⟩ := h.starts l level
    have hc : c ≠ 'n' := by
      intro hc
      exact hnull l level more (hc ▸ hwrite)
    have hread := h.reads_here l level rest
    rw [hwrite, List.cons_append] at hread
    rw [Json.optional, hwrite, List.cons_append, skipBlank_append_cons hblanks hblank]
    split
    · next htext => exact absurd (List.cons.inj htext).1 hc
    · rw [hread]
      rfl

/-! ## Lists -/

section

variable (l : Layout) (level : Nat)

/-- Where an item stands, another one follows. -/
theorem nextItem_before {c : Char} (hblank : isJsonBlank c = false) (hc : c ≠ ']')
    (isFirst : Bool) (more : List Char) :
    nextItem isFirst (l.before level isFirst ++ c :: more) = .ok (true, c :: more) := by
  have hgap := l.blank_gap level
  cases isFirst with
  | true =>
      rw [nextItem, Layout.before, if_pos rfl, skipBlank_append_cons hgap hblank]
      simp only [if_neg hc, if_true]
  | false =>
      have hcomma : Layout.before l level false ++ c :: more =
          ',' :: (l.gap level ++ c :: more) := rfl
      rw [nextItem, hcomma, skipBlank_cons (by decide)]
      simp only [skipBlank_append_cons hgap hblank]
      rw [if_neg (by decide), if_neg (by decide), if_pos trivial, if_neg hc]

/-- Where the bracket stands, no item follows. -/
theorem nextItem_beforeEnd (isFirst : Bool) (rest : List Char) :
    nextItem isFirst (l.beforeEnd level isFirst ++ ']' :: rest) = .ok (false, ']' :: rest) := by
  have hblank : Blank (l.beforeEnd level isFirst) := by
    cases isFirst with
    | true => exact blank_nil
    | false => exact l.blank_gap level
  rw [nextItem, skipBlank_append_cons hblank (by decide)]
  rfl

theorem length_lt_writeItems (items : List Value) :
    items.length < (l.writeItems level false items).length := by
  induction items with
  | nil =>
      rw [Layout.writeItems, List.length_append]
      exact Nat.lt_add_left _ Nat.zero_lt_one
  | cons item others ih =>
      have hcomma : 0 < (l.before (level + 1) false).length := Nat.zero_lt_succ _
      rw [Layout.writeItems, List.length_append, List.length_append, List.length_cons]
      omega

/-- A written list has at least as many characters as items. -/
theorem length_le_writeItems (isFirst : Bool) (items : List Value) :
    items.length ≤ (l.writeItems level isFirst items).length := by
  cases items with
  | nil => exact Nat.zero_le _
  | cons item others =>
      have hothers := length_lt_writeItems l level others
      rw [Layout.writeItems, List.length_append, List.length_cons]
      omega

variable {item : Decoder α} {values : List Value} {xs : List α}

/-- The items of a written list are read up to its bracket. -/
theorem itemsFrom_writeItems (h : List.Forall₂ (Recovers item) values xs) (isFirst : Bool)
    {fuel : Nat} (hfuel : values.length < fuel) (rest : List Char) :
    itemsFrom item fuel isFirst (l.writeItems level isFirst values ++ rest) = .ok (xs, rest) := by
  induction h generalizing isFirst fuel with
  | nil =>
      obtain ⟨fuel, rfl⟩ := Nat.exists_eq_succ_of_ne_zero (Nat.ne_of_gt hfuel)
      rw [Layout.writeItems, List.append_assoc, List.singleton_append, itemsFrom,
        nextItem_beforeEnd]
      rfl
  | @cons v x values xs hv _ ih =>
      rw [List.length_cons] at hfuel
      obtain ⟨fuel, rfl⟩ := Nat.exists_eq_succ_of_ne_zero (Nat.ne_of_gt (Nat.zero_lt_of_lt hfuel))
      obtain ⟨c, more, hwrite, hblank, hc⟩ := hv.starts l (level + 1)
      have hnext := nextItem_before l (level + 1) hblank hc isFirst
        (more ++ (l.writeItems level false values ++ rest))
      have hread := hv.reads_here l (level + 1) (l.writeItems level false values ++ rest)
      rw [hwrite, List.cons_append] at hread
      rw [Layout.writeItems, hwrite, List.append_assoc, List.append_assoc, List.cons_append,
        itemsFrom, hnext]
      simp only [bind, Except.bind, if_true, hread, ih false (Nat.lt_of_succ_lt_succ hfuel)]

/-- The items of a written list are read. -/
theorem items_writeItems (h : List.Forall₂ (Recovers item) values xs) (rest : List Char) :
    items item (l.writeItems level true values ++ rest) = .ok (xs, rest) := by
  have hlength := length_le_writeItems l level true values
  apply itemsFrom_writeItems l level h
  rw [List.length_append]
  omega

end

/-- A list is recovered if its items are. -/
theorem Recovers.list {item : Decoder α} {values : List Value} {xs : List α}
    (h : List.Forall₂ (Recovers item) values xs) : Recovers (Json.list item) (.list values) xs where
  starts _ _ := ⟨_, _, rfl, by decide, by decide⟩
  reads l level blanks rest hblanks := by
    rw [Json.list, Layout.write, List.cons_append, skipBlank_append_cons hblanks (by decide)]
    exact items_writeItems l level h rest

/-- A list of things of one kind is recovered if each of them is. -/
theorem Recovers.list_map {item : Decoder α} {f : α → Value} (h : ∀ x, Recovers item (f x) x)
    (xs : List α) : Recovers (Json.list item) (.list (xs.map f)) xs := by
  apply Recovers.list
  rw [List.forall₂_map_left_iff]
  exact List.forall₂_same.mpr fun x _ => h x

/-- A list of texts is recovered. -/
theorem Recovers.texts (texts : List String) :
    Recovers (Json.list Json.string) (.texts texts) texts :=
  Recovers.list_map Recovers.string texts

/-! ## Objects -/

section

variable (l : Layout) (level : Nat)

theorem nextName_before (isFirst : Bool) (more : List Char) :
    nextName isFirst (l.before level isFirst ++ '"' :: more) = .ok (true, more) := by
  have hgap := l.blank_gap level
  cases isFirst with
  | true =>
      rw [nextName, Layout.before, if_pos rfl, skipBlank_append_cons hgap (by decide)]
      rfl
  | false =>
      have hcomma : Layout.before l level false ++ '"' :: more =
          ',' :: (l.gap level ++ '"' :: more) := rfl
      rw [nextName, hcomma, skipBlank_cons (by decide)]
      simp only [skipBlank_append_cons hgap (by decide : isJsonBlank '"' = false)]
      rfl

theorem nextName_beforeEnd (isFirst : Bool) (rest : List Char) :
    nextName isFirst (l.beforeEnd level isFirst ++ '\x7d' :: rest) =
      .ok (false, '\x7d' :: rest) := by
  have hblank : Blank (l.beforeEnd level isFirst) := by
    cases isFirst with
    | true => exact blank_nil
    | false => exact l.blank_gap level
  rw [nextName, skipBlank_append_cons hblank (by decide)]
  rfl

theorem colon_cons (rest : List Char) : colon (':' :: rest) = .ok rest := by
  rw [colon, skipBlank_cons (by decide)]
  exact if_pos rfl

theorem length_lt_writeMembers (isFirst : Bool) (members : List (String × Value)) :
    members.length < (l.writeMembers level isFirst members).length := by
  induction members generalizing isFirst with
  | nil =>
      rw [Layout.writeMembers, List.length_append]
      exact Nat.lt_add_left _ Nat.zero_lt_one
  | cons m others ih =>
      obtain ⟨name, value⟩ := m
      have hothers := ih false
      simp only [Layout.writeMembers, List.length_append, List.length_cons]
      omega

/-- A member of a written object: its name, the colon and the blanks before its value. -/
theorem writeMembers_cons (isFirst : Bool) (name : String) (v : Value)
    (others : List (String × Value)) (rest : List Char) :
    l.writeMembers level isFirst ((name, v) :: others) ++ rest =
      l.before (level + 1) isFirst ++ '"' :: (name.toList.flatMap escapeChar ++ '"' :: (':' ::
        (l.space ++ (l.write (level + 1) v ++ (l.writeMembers level false others ++ rest))))) := by
  simp [Layout.writeMembers, quoted]

/-- The members of a written object are read up to its brace. -/
theorem membersFrom_writeMembers {value : Decoder α} {ms : List (String × Value)}
    {xs : List (String × α)}
    (h : List.Forall₂ (fun m x => m.1 = x.1 ∧ Recovers value m.2 x.2) ms xs) (isFirst : Bool)
    {fuel : Nat} (hfuel : ms.length < fuel) (rest : List Char) :
    membersFrom value fuel isFirst (l.writeMembers level isFirst ms ++ rest) = .ok (xs, rest) := by
  induction h generalizing isFirst fuel with
  | nil =>
      obtain ⟨fuel, rfl⟩ := Nat.exists_eq_succ_of_ne_zero (Nat.ne_of_gt hfuel)
      rw [Layout.writeMembers, List.append_assoc, List.singleton_append, membersFrom,
        nextName_beforeEnd]
      rfl
  | @cons m x ms xs hm _ ih =>
      obtain ⟨name, v⟩ := m
      obtain ⟨rfl, hv⟩ := hm
      rw [List.length_cons] at hfuel
      obtain ⟨fuel, rfl⟩ := Nat.exists_eq_succ_of_ne_zero (Nat.ne_of_gt (Nat.zero_lt_of_lt hfuel))
      have hread := hv.reads l (level + 1) l.space (l.writeMembers level false ms ++ rest)
        l.blank_space
      rw [writeMembers_cons, membersFrom, nextName_before]
      simp only [bind, Except.bind, if_true, quotedText_quoted, colon_cons, hread,
        ih false (Nat.lt_of_succ_lt_succ hfuel)]

/-- The members of a written object are read. -/
theorem members_writeMembers {value : Decoder α} {ms : List (String × Value)}
    {xs : List (String × α)}
    (h : List.Forall₂ (fun m x => m.1 = x.1 ∧ Recovers value m.2 x.2) ms xs) (rest : List Char) :
    members value (l.writeMembers level true ms ++ rest) = .ok (xs, rest) := by
  have hlength := length_lt_writeMembers l level true ms
  apply membersFrom_writeMembers l level h
  rw [List.length_append]
  omega

end

/-- A dictionary is recovered with the names of its members, if their values are. -/
theorem Recovers.dictionary {value : Decoder α} {ms : List (String × Value)}
    {xs : List (String × α)}
    (h : List.Forall₂ (fun m x => m.1 = x.1 ∧ Recovers value m.2 x.2) ms xs) :
    Recovers (Json.dictionary value) (.object ms) xs where
  starts _ _ := ⟨_, _, rfl, by decide, by decide⟩
  reads l level blanks rest hblanks := by
    rw [Json.dictionary, Layout.write, List.cons_append, skipBlank_append_cons hblanks (by decide)]
    exact members_writeMembers l level h rest

/-! ## Records -/

namespace Shape

/-- Whether the members of an object fill the fields of a record: each member has the name of a
field that is not set yet, and the field recovers its value. -/
inductive Fills (s : Shape σ α) : σ → List (String × Value) → σ → Prop where
  | nil (a : σ) : Fills s a [] a
  | cons {a b done : σ} {name : String} {v : Value} {others : List (String × Value)}
      {field : RecordField σ} (hfield : s.fields.find? (·.name = name) = some field)
      (hfresh : field.isSet a = false) (hvalue : Recovers (field.read a) v b)
      (hothers : Fills s b others done) : Fills s a ((name, v) :: others) done

variable {s : Shape σ α} (l : Layout) (level : Nat)

/-- The fields of a written record are read up to its brace, which is left. -/
theorem readMembers_writeMembers {a done : σ} {ms : List (String × Value)} (h : s.Fills a ms done)
    (isFirst : Bool) {fuel : Nat} (hfuel : ms.length < fuel) (rest : List Char) :
    s.readMembers fuel isFirst a (l.writeMembers level isFirst ms ++ rest) =
      .ok (done, '\x7d' :: rest) := by
  induction h generalizing isFirst fuel with
  | nil a =>
      obtain ⟨fuel, rfl⟩ := Nat.exists_eq_succ_of_ne_zero (Nat.ne_of_gt hfuel)
      rw [Layout.writeMembers, List.append_assoc, List.singleton_append, readMembers,
        nextName_beforeEnd]
      rfl
  | @cons a b done name v others field hfield hfresh hvalue _ ih =>
      rw [List.length_cons] at hfuel
      obtain ⟨fuel, rfl⟩ := Nat.exists_eq_succ_of_ne_zero (Nat.ne_of_gt (Nat.zero_lt_of_lt hfuel))
      have hread := hvalue.reads l (level + 1) l.space (l.writeMembers level false others ++ rest)
        l.blank_space
      rw [writeMembers_cons, readMembers, nextName_before]
      simp only [bind, Except.bind, if_true, quotedText_quoted, hfield, hfresh, colon_cons, hread,
        Bool.false_eq_true, if_false, ih false (Nat.lt_of_succ_lt_succ hfuel)]

end Shape

/-- **A record is recovered from an object that fills its fields**, if none of them is missing
then. -/
theorem Recovers.record {s : Shape σ α} {ms : List (String × Value)} {done : σ} {x : α}
    (hfills : s.Fills s.blank ms done) (hmissing : s.missing? done = none)
    (hbuild : s.build done = some x) : Recovers s.read (.object ms) x where
  starts _ _ := ⟨_, _, rfl, by decide, by decide⟩
  reads l level blanks rest hblanks := by
    have hlength := length_lt_writeMembers l level true ms
    have hmembers : s.readMembers ((l.writeMembers level true ms ++ rest).length + 1) true s.blank
        (l.writeMembers level true ms ++ rest) = .ok (done, '\x7d' :: rest) := by
      apply Shape.readMembers_writeMembers l level hfills
      rw [List.length_append]
      omega
    have hcomplete : s.complete done ('\x7d' :: rest) = .ok x := by
      rw [Shape.complete, hmissing, hbuild]
    have hclose : closeObject ('\x7d' :: rest) = .ok rest := rfl
    rw [Shape.read, Layout.write, List.cons_append, skipBlank_append_cons hblanks (by decide)]
    simp only [if_true, bind, Except.bind, hmembers, hcomplete, hclose, Except.map]

end ObjectAccess.Json
