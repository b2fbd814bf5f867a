/-!
# Directories

A directory is a finite map from names to values.  Buckets by name, objects by
key, public patterns by bucket and paths by group are all directories.  The entries
are kept in ascending order of their names, compared character by character, and
that order is part of the type: a listing needs no sorting, and two directories with
the same contents are equal (`Directory.ext_get?`), whatever was done to reach them.
-/

namespace ObjectAccess

set_option autoImplicit false

/-! ## Entries in ascending order -/

namespace Entries

variable {α : Type}

/-- Whether the names of entries ascend. -/
def Ascending (entries : List (String × α)) : Prop :=
  entries.Pairwise fun a b => a.1 < b.1

/-- The value of a name. -/
def get? (name : String) : List (String × α) → Option α
  | [] => none
  | (other, held) :: rest => if name = other then some held else get? name rest

/-- The entries with a value put under a name. -/
def insert (name : String) (value : α) : List (String × α) → List (String × α)
  | [] => [(name, value)]
  | (other, held) :: rest =>
    if name < other then (name, value) :: (other, held) :: rest
    else if name = other then (name, value) :: rest
    else (other, held) :: insert name value rest

/-- The entries without a name. -/
def erase (name : String) : List (String × α) → List (String × α)
  | [] => []
  | (other, held) :: rest =>
    if name = other then erase name rest else (other, held) :: erase name rest

theorem lt_of_not_lt_of_ne {a b : String} (h : ¬a < b) (hne : a ≠ b) : b < a := by
  rcases Std.le_iff_lt_or_eq.mp (String.not_lt.mp h) with h' | h'
  · exact h'
  · exact absurd h'.symm hne

theorem mem_insert {name : String} {value : α} {e : String × α} :
    ∀ {entries : List (String × α)}, e ∈ insert name value entries →
      e = (name, value) ∨ e ∈ entries
  | [], h => by simpa [insert] using h
  | (other, held) :: rest, h => by
      unfold insert at h
      split at h
      · simpa using h
      · split at h
        · rcases List.mem_cons.mp h with h | h
          · exact Or.inl h
          · exact Or.inr (List.mem_cons_of_mem _ h)
        · rcases List.mem_cons.mp h with h | h
          · exact Or.inr (h ▸ List.mem_cons_self ..)
          · exact (mem_insert h).imp id (List.mem_cons_of_mem _)

theorem ascending_insert (name : String) (value : α) :
    ∀ {entries : List (String × α)}, Ascending entries → Ascending (insert name value entries)
  | [], _ => by simp [insert, Ascending]
  | (other, held) :: rest, h => by
      obtain ⟨head, tail⟩ := List.pairwise_cons.mp h
      unfold insert
      split
      · next hlt =>
          refine List.pairwise_cons.mpr ⟨fun e he => ?_, h⟩
          rcases List.mem_cons.mp he with he | he
          · exact he ▸ hlt
          · exact String.lt_trans hlt (head e he)
      · next hnlt =>
          split
          · next heq => exact List.pairwise_cons.mpr ⟨fun e he => heq ▸ head e he, tail⟩
          · next hne =>
              refine List.pairwise_cons.mpr ⟨fun e he => ?_, ascending_insert name value tail⟩
              rcases mem_insert he with he | he
              · exact he ▸ lt_of_not_lt_of_ne hnlt hne
              · exact head e he

theorem erase_sublist (name : String) :
    ∀ entries : List (String × α), (erase name entries).Sublist entries
  | [] => List.Sublist.slnil
  | (other, held) :: rest => by
      unfold erase
      split
      · exact (erase_sublist name rest).cons _
      · exact (erase_sublist name rest).cons_cons _

theorem ascending_erase (name : String) {entries : List (String × α)}
    (h : Ascending entries) : Ascending (erase name entries) :=
  List.Pairwise.sublist (erase_sublist name entries) h

theorem get?_insert_self (name : String) (value : α) :
    ∀ entries : List (String × α), get? name (insert name value entries) = some value
  | [] => by simp [insert, get?]
  | (other, held) :: rest => by
      unfold insert
      split
      · simp [get?]
      · split
        · simp [get?]
        · next hne => simp [get?, hne, get?_insert_self name value rest]

theorem get?_insert_of_ne {name other : String} (value : α) (h : other ≠ name) :
    ∀ entries : List (String × α), get? other (insert name value entries) = get? other entries
  | [] => by simp [insert, get?, h]
  | (key, held) :: rest => by
      unfold insert
      split
      · simp [get?, h]
      · split
        · next heq => simp [get?, ← heq, h]
        · simp [get?, get?_insert_of_ne value h rest]

theorem get?_erase_self (name : String) :
    ∀ entries : List (String × α), get? name (erase name entries) = none
  | [] => rfl
  | (other, held) :: rest => by
      unfold erase
      split
      · exact get?_erase_self name rest
      · next hne => simp [get?, hne, get?_erase_self name rest]

theorem get?_erase_of_ne {name other : String} (h : other ≠ name) :
    ∀ entries : List (String × α), get? other (erase name entries) = get? other entries
  | [] => rfl
  | (key, held) :: rest => by
      unfold erase
      split
      · next heq =>
          have hne : other ≠ key := fun e => h (e.trans heq.symm)
          simp [get?, hne, get?_erase_of_ne h rest]
      · simp [get?, get?_erase_of_ne h rest]

theorem get?_eq_some_iff {name : String} {value : α} :
    ∀ {entries : List (String × α)}, Ascending entries →
      (get? name entries = some value ↔ (name, value) ∈ entries)
  | [], _ => by simp [get?]
  | (other, held) :: rest, h => by
      obtain ⟨head, tail⟩ := List.pairwise_cons.mp h
      have ih : get? name rest = some value ↔ (name, value) ∈ rest := get?_eq_some_iff tail
      unfold get?
      split
      · next heq =>
          subst heq
          constructor
          · intro hv
            simp only [Option.some.injEq] at hv
            simp [hv]
          · intro hm
            rcases List.mem_cons.mp hm with hm | hm
            · simp_all
            · exact absurd (head _ hm) (String.lt_irrefl _)
      · next hne => simp [ih, hne]

end Entries

/-! ## Directories -/

/-- A finite map from names to values, in ascending order of the names. -/
structure Directory (α : Type) where
  entries : List (String × α)
  ascending : Entries.Ascending entries

namespace Directory

variable {α : Type}

/-- The directory without entries. -/
def empty : Directory α := ⟨[], List.Pairwise.nil⟩

instance : Inhabited (Directory α) := ⟨empty⟩

/-- The value of a name. -/
def get? (d : Directory α) (name : String) : Option α := Entries.get? name d.entries

/-- Whether a name has a value. -/
def contains (d : Directory α) (name : String) : Bool := (d.get? name).isSome

/-- The directory with a value put under a name, in place of any earlier one. -/
def insert (d : Directory α) (name : String) (value : α) : Directory α :=
  ⟨Entries.insert name value d.entries, Entries.ascending_insert name value d.ascending⟩

/-- The directory without a name. -/
def erase (d : Directory α) (name : String) : Directory α :=
  ⟨Entries.erase name d.entries, Entries.ascending_erase name d.ascending⟩

/-- The names in ascending order. -/
def names (d : Directory α) : List String := d.entries.map (·.1)

/-- How many names have a value. -/
def size (d : Directory α) : Nat := d.entries.length

/-- Whether no name has a value. -/
def isEmpty (d : Directory α) : Bool := d.entries.isEmpty

/-- The directory of a list of entries; of entries with the same name the last one counts. -/
def ofList (entries : List (String × α)) : Directory α :=
  entries.foldl (fun d e => d.insert e.1 e.2) empty

@[simp] theorem get?_empty (name : String) : (empty : Directory α).get? name = none := rfl

@[simp] theorem get?_insert_self (d : Directory α) (name : String) (value : α) :
    (d.insert name value).get? name = some value :=
  Entries.get?_insert_self name value d.entries

theorem get?_insert_of_ne (d : Directory α) {name other : String} (value : α)
    (h : other ≠ name) : (d.insert name value).get? other = d.get? other :=
  Entries.get?_insert_of_ne value h d.entries

@[simp] theorem get?_erase_self (d : Directory α) (name : String) :
    (d.erase name).get? name = none :=
  Entries.get?_erase_self name d.entries

theorem get?_erase_of_ne (d : Directory α) {name other : String} (h : other ≠ name) :
    (d.erase name).get? other = d.get? other :=
  Entries.get?_erase_of_ne h d.entries

/-- A name has a value exactly if the two are an entry. -/
theorem get?_eq_some_iff (d : Directory α) {name : String} {value : α} :
    d.get? name = some value ↔ (name, value) ∈ d.entries :=
  Entries.get?_eq_some_iff d.ascending

/-- Entries in ascending order are determined by their members. -/
theorem entries_eq_of_mem_iff :
    ∀ {xs ys : List (String × α)}, Entries.Ascending xs → Entries.Ascending ys →
      (∀ e, e ∈ xs ↔ e ∈ ys) → xs = ys
  | [], [], _, _, _ => rfl
  | [], y :: ys, _, _, h => absurd ((h y).mpr (List.mem_cons_self ..)) (by simp)
  | x :: xs, [], _, _, h => absurd ((h x).mp (List.mem_cons_self ..)) (by simp)
  | x :: xs, y :: ys, hx, hy, h => by
      obtain ⟨headX, tailX⟩ := List.pairwise_cons.mp hx
      obtain ⟨headY, tailY⟩ := List.pairwise_cons.mp hy
      have hxy : x = y := by
        rcases List.mem_cons.mp ((h x).mp (List.mem_cons_self ..)) with e | hm
        · exact e
        · rcases List.mem_cons.mp ((h y).mpr (List.mem_cons_self ..)) with e | hm'
          · exact e.symm
          · exact absurd (String.lt_trans (headY x hm) (headX y hm')) (String.lt_irrefl _)
      subst hxy
      have hrest : ∀ e, e ∈ xs ↔ e ∈ ys := fun e => by
        constructor
        · intro he
          rcases List.mem_cons.mp ((h e).mp (List.mem_cons_of_mem _ he)) with e' | hm
          · exact absurd (e' ▸ headX e he) (String.lt_irrefl _)
          · exact hm
        · intro he
          rcases List.mem_cons.mp ((h e).mpr (List.mem_cons_of_mem _ he)) with e' | hm
          · exact absurd (e' ▸ headY e he) (String.lt_irrefl _)
          · exact hm
      rw [entries_eq_of_mem_iff tailX tailY hrest]

/-- Directories with the same values are equal. -/
theorem ext_get? {d e : Directory α} (h : ∀ name, d.get? name = e.get? name) : d = e := by
  have hentries : d.entries = e.entries :=
    entries_eq_of_mem_iff d.ascending e.ascending fun (name, value) => by
      rw [← get?_eq_some_iff, ← get?_eq_some_iff, h name]
  cases d; cases e; simp_all

end Directory

end ObjectAccess
