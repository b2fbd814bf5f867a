import ObjectAccess.Proofs.Json.Reading

/-!
# Any value is read back

The reader of arbitrary values limits how deep containers are nested and sorts the members of an
object by name.  So a value whose nesting is within the limit comes back with its members sorted,
from its text in every layout (`parse_write`).  Values that hold numbers are left out: a number
has no end of its own, so what is read depends on the text after it.
-/

namespace ObjectAccess.Json

set_option autoImplicit false

namespace Value

mutual
/-- A value with the members of all its objects in ascending order. -/
def sorted : Value → Value
  | .null => .null
  | .boolean b => .boolean b
  | .number n => .number n
  | .text s => .text s
  | .list items => .list (sortedItems items)
  | .object members => .object (sortMembers (sortedMembers members))

/-- The items of a list, each of them sorted. -/
def sortedItems : List Value → List Value
  | [] => []
  | item :: others => sorted item :: sortedItems others

/-- The members of an object in their own order, with their values sorted. -/
def sortedMembers : List (String × Value) → List (String × Value)
  | [] => []
  | (name, value) :: others => (name, sorted value) :: sortedMembers others
end

/-- Whether a value holds no numbers, and no more than `nesting` containers inside each other. -/
inductive Fits : Nat → Value → Prop where
  | null (nesting : Nat) : Fits nesting .null
  | boolean (nesting : Nat) (b : Bool) : Fits nesting (.boolean b)
  | text (nesting : Nat) (s : String) : Fits nesting (.text s)
  | list {nesting : Nat} {items : List Value} (h : ∀ item ∈ items, Fits nesting item) :
      Fits (nesting + 1) (.list items)
  | object {nesting : Nat} {members : List (String × Value)}
      (h : ∀ m ∈ members, Fits nesting m.2) : Fits (nesting + 1) (.object members)

/-- A list of texts takes one level. -/
theorem Fits.texts (nesting : Nat) (items : List String) :
    Fits (nesting + 1) (.texts items) := by
  apply Fits.list
  intro item hitem
  obtain ⟨s, -, rfl⟩ := List.mem_map.mp hitem
  exact .text nesting s

end Value

/-! ## Reading -/

section

variable {value : Decoder Value}

theorem forall₂_sortedItems {items : List Value} (h : ∀ v ∈ items, Recovers value v v.sorted) :
    List.Forall₂ (Recovers value) items (Value.sortedItems items) := by
  induction items with
  | nil => exact .nil
  | cons item others ih =>
      obtain ⟨hitem, hothers⟩ := List.forall_mem_cons.mp h
      exact .cons hitem (ih hothers)

theorem forall₂_sortedMembers {ms : List (String × Value)}
    (h : ∀ m ∈ ms, Recovers value m.2 m.2.sorted) :
    List.Forall₂ (fun m x => m.1 = x.1 ∧ Recovers value m.2 x.2) ms (Value.sortedMembers ms) := by
  induction ms with
  | nil => exact .nil
  | cons m others ih =>
      obtain ⟨hm, hothers⟩ := List.forall_mem_cons.mp h
      exact .cons ⟨rfl, hm⟩ (ih hothers)

end

/-- A value is recovered if it is read from where it starts: blanks in front are passed over. -/
theorem Recovers.value_of {nesting : Nat} {v x : Value} {c : Char}
    {more : Layout → Nat → List Char} (hwrite : ∀ l level, l.write level v = c :: more l level)
    (hblank : isJsonBlank c = false) (hc : c ≠ ']')
    (hread : ∀ l level rest, readValue nesting (c :: (more l level ++ rest)) = .ok (x, rest)) :
    Recovers (readValue nesting) v x where
  starts l level := ⟨c, more l level, hwrite l level, hblank, hc⟩
  reads l level blanks rest hblanks := by
    rw [← hread l level rest, hwrite, List.cons_append, readValue, readValue,
      skipBlank_append hblanks]

/-- A value comes back with its members sorted. -/
theorem Recovers.value {nesting : Nat} {v : Value} (h : v.Fits nesting) :
    Recovers (readValue nesting) v v.sorted := by
  induction h with
  | null nesting =>
      apply Recovers.value_of (fun _ _ => rfl) (by decide) (by decide)
      intro l level rest
      rw [readValue, skipBlank_cons (by decide)]
      rfl
  | boolean nesting b =>
      cases b <;> apply Recovers.value_of (fun _ _ => rfl) (by decide) (by decide) <;>
        intro l level rest <;> rw [readValue, skipBlank_cons (by decide)] <;> rfl
  | text nesting s =>
      apply Recovers.value_of (fun _ _ => rfl) (by decide) (by decide)
      intro l level rest
      rw [readValue, skipBlank_cons (by decide), List.append_assoc, List.singleton_append]
      simp only [quotedText_quoted, bind, Except.bind]
      rfl
  | @list nesting items _ ih =>
      apply Recovers.value_of (fun _ _ => rfl) (by decide) (by decide)
      intro l level rest
      rw [readValue, skipBlank_cons (by decide)]
      simp only [items_writeItems l level (forall₂_sortedItems ih), bind, Except.bind]
      rfl
  | @object nesting ms _ ih =>
      apply Recovers.value_of (fun _ _ => rfl) (by decide) (by decide)
      intro l level rest
      rw [readValue, skipBlank_cons (by decide)]
      simp only [members_writeMembers l level (forall₂_sortedMembers ih), bind, Except.bind]
      rfl

/-- **The text of a value within the limit is read as the value with its members sorted**, in
every layout. -/
theorem parse_write {v : Value} (h : v.Fits maxNesting) (l : Layout) :
    parse (String.ofList (l.write 0 v)) = .ok v.sorted :=
  (Recovers.value h).decodeText l

/-- The text without spaces. -/
theorem parse_compactText {v : Value} (h : v.Fits maxNesting) :
    parse v.compactText = .ok v.sorted := by
  rw [Value.compactText_eq, parse_write h]

end ObjectAccess.Json
