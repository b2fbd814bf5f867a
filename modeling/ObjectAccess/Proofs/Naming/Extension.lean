import ObjectAccess.Naming.ObjectKey
import ObjectAccess.Proofs.Text.Pieces

/-!
# Extensions of file names

The base name of a file is what follows the last slash, and the extension is what follows the last
dot of the base name, with text on both sides of the dot (`extension?_eq_some_iff`).  So a hidden
file has no extension, nor has one whose name ends with a dot, and the dots of directories do not
count.
-/

namespace ObjectAccess.Naming

set_option autoImplicit false

open ObjectAccess.Text

variable {fileName base ext stem : List Char}

/-- Whether a text is the base name of a file: the part after the last slash. -/
def IsBaseName (fileName base : List Char) : Prop :=
  '/' ∉ base ∧ (fileName = base ∨ ∃ directory, fileName = directory ++ '/' :: base)

/-- Whether a text is the extension of a file: the part of the base name after its last dot, with
text on both sides of the dot. -/
def IsExtension (fileName ext : List Char) : Prop :=
  ∃ stem, stem ≠ [] ∧ ext ≠ [] ∧ '.' ∉ ext ∧ IsBaseName fileName (stem ++ '.' :: ext)

theorem baseName_eq_iff : baseName fileName = base ↔ IsBaseName fileName base := by
  unfold baseName
  cases hcut : cutLast? '/' fileName with
  | none =>
      have hslash := cutLast?_eq_none_iff.mp hcut
      constructor
      · rintro rfl
        exact ⟨hslash, Or.inl rfl⟩
      · rintro ⟨-, hself | ⟨directory, rfl⟩⟩
        · exact hself
        · exact absurd (List.mem_append_right _ (List.mem_cons_self ..)) hslash
  | some parts =>
      obtain ⟨directory, found⟩ := parts
      obtain ⟨rfl, hfound⟩ := cutLast?_eq_some_iff.mp hcut
      constructor
      · rintro rfl
        exact ⟨hfound, Or.inr ⟨directory, rfl⟩⟩
      · rintro ⟨hbase, rfl | ⟨other, hother⟩⟩
        · exact absurd (List.mem_append_right _ (List.mem_cons_self ..)) hbase
        · rw [hother, cutLast?_append other hbase] at hcut
          exact (congrArg Prod.snd (Option.some.inj hcut)).symm

theorem extension?_eq_some_iff : extension? fileName = some ext ↔ IsExtension fileName ext := by
  have hcut (stem : List Char) : cutLast? '.' (baseName fileName) = some (stem, ext) ↔
      '.' ∉ ext ∧ IsBaseName fileName (stem ++ '.' :: ext) := by
    rw [cutLast?_eq_some_iff, baseName_eq_iff, and_comm]
  unfold extension? IsExtension
  simp only [← hcut]
  cases cutLast? '.' (baseName fileName) with
  | none => simp
  | some parts =>
      obtain ⟨stem, found⟩ := parts
      simp only [Option.ite_none_left_eq_some, not_or, Option.some.injEq, Prod.mk.injEq]
      constructor
      · rintro ⟨⟨hstem, hext⟩, rfl⟩
        exact ⟨stem, hstem, hext, rfl, rfl⟩
      · rintro ⟨_, hstem, hext, rfl, rfl⟩
        exact ⟨⟨hstem, hext⟩, rfl⟩

/-- An extension holds no slash. -/
theorem IsExtension.slash_not_mem (h : IsExtension fileName ext) : '/' ∉ ext := by
  obtain ⟨stem, -, -, -, hslash, -⟩ := h
  exact fun hmem => hslash (List.mem_append_right _ (List.mem_cons_of_mem _ hmem))

/-- Without a dot in its base name a file has no extension. -/
theorem extension?_eq_none (hbase : IsBaseName fileName base) (hdot : '.' ∉ base) :
    extension? fileName = none := by
  rw [extension?, baseName_eq_iff.mpr hbase, cutLast?_eq_none_iff.mpr hdot]

end ObjectAccess.Naming
