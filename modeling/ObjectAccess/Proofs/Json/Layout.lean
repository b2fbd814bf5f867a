import ObjectAccess.Json.Lexeme
import ObjectAccess.Json.Printer

/-!
# Layouts of a JSON text

The text without spaces and the text on lines differ only in the blanks between their tokens.
A layout says which blanks these are: what stands before an item or a closing bracket on a level,
and what stands after a colon.  `Layout.write` is the text of a value in a layout, and both
printers write in one (`compact_eq_write`, `prettyAt_eq_write`).  So what is proved of all layouts
holds of both texts.
-/

namespace ObjectAccess.Json

set_option autoImplicit false

/-- Whether a text holds nothing but blanks. -/
def Blank (text : List Char) : Prop := ∀ c ∈ text, isJsonBlank c = true

theorem blank_nil : Blank [] := fun _ h => absurd h List.not_mem_nil

/-- Blanks in front of a text are passed over. -/
theorem skipBlank_append {blanks : List Char} (h : Blank blanks) (text : List Char) :
    skipBlank (blanks ++ text) = skipBlank text :=
  List.dropWhile_append_of_pos h

/-- The blanks between the tokens of a text. -/
structure Layout where
  /-- What stands before an item on a level, and before the bracket that closes that level. -/
  gap : Nat → List Char
  /-- What stands after a colon. -/
  space : List Char
  blank_gap : ∀ level, Blank (gap level)
  blank_space : Blank space

namespace Layout

/-- No blanks at all. -/
def dense : Layout where
  gap _ := []
  space := []
  blank_gap _ := blank_nil
  blank_space := blank_nil

/-- A line for each item. -/
def lines : Layout where
  gap := newLine
  space := [' ']
  blank_gap level c h := by
    rcases List.mem_cons.mp h with rfl | h
    · rfl
    · rw [(List.mem_replicate.mp h).2]
      rfl
  blank_space c h := by
    rw [List.mem_singleton.mp h]
    rfl

/-- What stands before an item: a comma unless it is the first one, and the gap. -/
def before (l : Layout) (level : Nat) (isFirst : Bool) : List Char :=
  if isFirst then l.gap level else ',' :: l.gap level

/-- What stands before a closing bracket: nothing if there was no item. -/
def beforeEnd (l : Layout) (level : Nat) (isFirst : Bool) : List Char :=
  if isFirst then [] else l.gap level

mutual
/-- The text of a value that starts on a level. -/
def write (l : Layout) (level : Nat) : Value → List Char
  | .null => "null".toList
  | .boolean b => booleanText b
  | .number n => n.text
  | .text s => quoted s
  | .list items => '[' :: writeItems l level true items
  | .object members => '\x7b' :: writeMembers l level true members

/-- The items of a list with the bracket that closes it. -/
def writeItems (l : Layout) (level : Nat) (isFirst : Bool) : List Value → List Char
  | [] => l.beforeEnd level isFirst ++ [']']
  | item :: others =>
    l.before (level + 1) isFirst ++ write l (level + 1) item ++ writeItems l level false others

/-- The members of an object with the brace that closes it. -/
def writeMembers (l : Layout) (level : Nat) (isFirst : Bool) :
    List (String × Value) → List Char
  | [] => l.beforeEnd level isFirst ++ ['\x7d']
  | (name, value) :: others =>
    l.before (level + 1) isFirst ++ quoted name ++ ':' :: l.space ++
      write l (level + 1) value ++ writeMembers l level false others
end

end Layout

/-! ## The two printers -/

mutual
/-- The text without spaces is written in the dense layout. -/
theorem compact_eq_write : ∀ (level : Nat) (v : Value), compact v = Layout.dense.write level v
  | _, .null => rfl
  | _, .boolean _ => rfl
  | _, .number _ => rfl
  | _, .text _ => rfl
  | _, .list [] => rfl
  | level, .list (item :: others) => by
      rw [compact, compact_eq_write (level + 1) item, compactItems_eq_write level others]
      simp [Layout.write, Layout.writeItems, Layout.before, Layout.dense]
  | _, .object [] => rfl
  | level, .object ((name, value) :: others) => by
      rw [compact, compact_eq_write (level + 1) value, compactMembers_eq_write level others]
      simp [Layout.write, Layout.writeMembers, Layout.before, Layout.dense]

theorem compactItems_eq_write : ∀ (level : Nat) (items : List Value),
    compactItems items = Layout.dense.writeItems level false items
  | _, [] => rfl
  | level, item :: others => by
      rw [compactItems, compact_eq_write (level + 1) item, compactItems_eq_write level others]
      simp [Layout.writeItems, Layout.before, Layout.dense]

theorem compactMembers_eq_write : ∀ (level : Nat) (members : List (String × Value)),
    compactMembers members = Layout.dense.writeMembers level false members
  | _, [] => rfl
  | level, (name, value) :: others => by
      rw [compactMembers, compact_eq_write (level + 1) value, compactMembers_eq_write level others]
      simp [Layout.writeMembers, Layout.before, Layout.dense]
end

mutual
/-- The text on lines is written in the layout of lines. -/
theorem prettyAt_eq_write : ∀ (level : Nat) (v : Value),
    prettyAt level v = Layout.lines.write level v
  | _, .null => rfl
  | _, .boolean _ => rfl
  | _, .number _ => rfl
  | _, .text _ => rfl
  | _, .list [] => rfl
  | level, .list (item :: others) => by
      rw [prettyAt, prettyAt_eq_write (level + 1) item, prettyItems_eq_write level others]
      simp [Layout.write, Layout.writeItems, Layout.before, Layout.lines]
  | _, .object [] => rfl
  | level, .object ((name, value) :: others) => by
      rw [prettyAt, prettyAt_eq_write (level + 1) value, prettyMembers_eq_write level others]
      simp [Layout.write, Layout.writeMembers, Layout.before, Layout.lines]

theorem prettyItems_eq_write : ∀ (level : Nat) (items : List Value),
    prettyItems level items = Layout.lines.writeItems level false items
  | _, [] => rfl
  | level, item :: others => by
      rw [prettyItems, prettyAt_eq_write (level + 1) item, prettyItems_eq_write level others]
      simp [Layout.writeItems, Layout.before, Layout.lines]

theorem prettyMembers_eq_write : ∀ (level : Nat) (members : List (String × Value)),
    prettyMembers level members = Layout.lines.writeMembers level false members
  | _, [] => rfl
  | level, (name, value) :: others => by
      rw [prettyMembers, prettyAt_eq_write (level + 1) value, prettyMembers_eq_write level others]
      simp [Layout.writeMembers, Layout.before, Layout.lines]
end

theorem Value.compactText_eq (v : Value) :
    v.compactText = String.ofList (Layout.dense.write 0 v) := by
  rw [compactText, compact_eq_write 0 v]

theorem Value.prettyText_eq (v : Value) :
    v.prettyText = String.ofList (Layout.lines.write 0 v) := by
  rw [prettyText, pretty, prettyAt_eq_write 0 v]

end ObjectAccess.Json
