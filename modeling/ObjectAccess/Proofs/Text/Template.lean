import ObjectAccess.Proofs.Text.Pieces

/-!
# Texts that hold a value

A text that is put together from fixed parts and a value, which may be written in several places,
determines the value as soon as it is written somewhere (`Inserts.eq_iff`).  No separator has to
tell the parts apart: two values of one length stand in the same places, and values of different
lengths make texts of different lengths.  What is written and joined from such texts is such a text
again, so it is enough to follow the value through the parts.
-/

namespace ObjectAccess.Text

set_option autoImplicit false

/-- A template with its gaps filled. -/
def fill (template : List (Option Char)) (value : List Char) : List Char :=
  template.flatMap fun place => match place with
    | some c => [c]
    | none => value

/-- A text holds a value in some places, if it is used at all, and does not depend on it
otherwise. -/
def Inserts (text : List Char → List Char) (used : Prop) : Prop :=
  ∃ template, (∀ value, text value = fill template value) ∧ (none ∈ template ↔ used)

variable {value other : List Char} {template : List (Option Char)}

/-! ## Templates -/

theorem fill_append (first second : List (Option Char)) (value : List Char) :
    fill (first ++ second) value = fill first value ++ fill second value :=
  List.flatMap_append

theorem fill_map_some (text value : List Char) : fill (text.map some) value = text := by
  induction text with
  | nil => rfl
  | cons c rest ih => exact congrArg (c :: ·) ih

theorem fill_of_not_mem (h : none ∉ template) : fill template value = fill template other := by
  induction template with
  | nil => rfl
  | cons place rest ih =>
      cases place with
      | none => exact absurd (List.mem_cons_self ..) h
      | some c => exact congrArg (c :: ·) (ih fun hrest => h (List.mem_cons_of_mem _ hrest))

theorem length_fill (template : List (Option Char)) (value : List Char) :
    (fill template value).length =
      (fill template []).length + template.count none * value.length := by
  induction template with
  | nil => simp [fill]
  | cons place rest ih =>
      cases place with
      | none =>
          have hstart : ∀ v, fill (none :: rest) v = v ++ fill rest v := fun _ => rfl
          rw [hstart, hstart, List.length_append, ih, List.count_cons_self, List.nil_append,
            Nat.succ_mul]
          omega
      | some c =>
          have hstart : ∀ v, fill (some c :: rest) v = c :: fill rest v := fun _ => rfl
          rw [hstart, hstart, List.length_cons, List.length_cons, ih,
            List.count_cons_of_ne (by simp)]
          omega

/-- A value can be read off a template that has a gap. -/
theorem eq_of_fill_eq (hgap : none ∈ template) (h : fill template value = fill template other) :
    value = other := by
  have hlength : value.length = other.length := by
    have hsame := congrArg List.length h
    rw [length_fill, length_fill template other, Nat.add_left_cancel_iff] at hsame
    exact Nat.eq_of_mul_eq_mul_left (List.count_pos_iff.mpr hgap) hsame
  induction template with
  | nil => exact absurd hgap List.not_mem_nil
  | cons place rest ih =>
      cases place with
      | none => exact (List.append_inj h hlength).1
      | some c =>
          refine ih ?_ (List.cons.inj h).2
          simpa using hgap

/-! ## Texts -/

namespace Inserts

variable {text rest : List Char → List Char} {used also : Prop}

theorem congr (h : Inserts text used) (hiff : used ↔ also) : Inserts text also := by
  obtain ⟨template, htext, hused⟩ := h
  exact ⟨template, htext, hused.trans hiff⟩

theorem constant (text : List Char) : Inserts (fun _ => text) False :=
  ⟨text.map some, fun value => (fill_map_some text value).symm, by simp⟩

theorem self : Inserts (fun value => value) True :=
  ⟨[none], fun value => by simp [fill], by simp⟩

theorem append (h : Inserts text used) (hrest : Inserts rest also) :
    Inserts (fun value => text value ++ rest value) (used ∨ also) := by
  obtain ⟨template, htext, hused⟩ := h
  obtain ⟨more, hmore, halso⟩ := hrest
  refine ⟨template ++ more, fun value => ?_, ?_⟩
  · exact (congrArg₂ (· ++ ·) (htext value) (hmore value)).trans (fill_append ..).symm
  · rw [List.mem_append, hused, halso]

theorem after (before : List Char) (h : Inserts text used) :
    Inserts (fun value => before ++ text value) used :=
  ((constant before).append h).congr (iff_of_eq (false_or used))

/-- A joined text holds the value just if one of its parts does. -/
theorem join {α : Type} (sep : Char) {part : α → List Char → List Char} {usedBy : α → Prop}
    (h : ∀ a, Inserts (part a) (usedBy a)) : ∀ parts : List α,
      Inserts (fun value => Text.join sep (parts.map fun a => part a value))
        (∃ a ∈ parts, usedBy a)
  | [] => (constant []).congr (by simp)
  | [a] => (h a).congr (by simp)
  | a :: b :: others =>
      ((h a).append ((join sep h (b :: others)).after [sep])).congr (by simp)

/-- **Such a text determines the value just if it holds it.** -/
theorem eq_iff (h : Inserts text used) : text value = text other ↔ (used → value = other) := by
  obtain ⟨template, htext, hused⟩ := h
  rw [htext, htext, ← hused]
  constructor
  · exact fun hsame hgap => eq_of_fill_eq hgap hsame
  · intro hsame
    by_cases hgap : none ∈ template
    · rw [hsame hgap]
    · exact fill_of_not_mem hgap

end Inserts

end ObjectAccess.Text
