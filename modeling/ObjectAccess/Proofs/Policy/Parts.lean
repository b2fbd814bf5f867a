import ObjectAccess.Policy.Specification
import ObjectAccess.Proofs.Json.Reading
import ObjectAccess.Proofs.Policy.Statements

/-!
# A specification in two parts

A specification can be held in two parts: the paths of each group, and a directory of the other
names.  Reading sorts the names into the parts and writing joins them again.  Nothing in that
form keeps the name of a group out of the other names, and a name in both parts would be written
once only.  It does not happen: no step puts the name of a group there (`Parts.Separate`), so
the parts are the two halves of the one directory, and what is done to the one is done to the
other (`Specification.parts_insert`, `Parts.build_eq`).

The directory is read back from its text, and so the parts are
(`Specification.ofText_of_build`).
-/

namespace ObjectAccess

set_option autoImplicit false

/-! ## The directory of a list -/

namespace Directory

variable {α : Type}

/-- Entries with different names, put one after the other, are all there in the end. -/
theorem get?_foldl_insert {entries : List (String × α)}
    (hnames : (entries.map (·.1)).Nodup) (d : Directory α) (name : String) (value : α) :
    (entries.foldl (fun d e => d.insert e.1 e.2) d).get? name = some value ↔
      (name, value) ∈ entries ∨ (name ∉ entries.map (·.1) ∧ d.get? name = some value) := by
  induction entries generalizing d with
  | nil => simp
  | cons e others ih =>
      obtain ⟨other, held⟩ := e
      obtain ⟨hfresh, hothers⟩ := List.nodup_cons.mp hnames
      rw [List.foldl_cons, ih hothers]
      by_cases hname : name = other
      · subst hname
        have hnot : (name, value) ∉ others :=
          fun h => hfresh (List.mem_map.mpr ⟨(name, value), h, rfl⟩)
        simp [hnot, hfresh, eq_comm]
      · simp [d.get?_insert_of_ne held hname, hname]

theorem get?_ofList {entries : List (String × α)} (hnames : (entries.map (·.1)).Nodup)
    (name : String) (value : α) :
    (ofList entries).get? name = some value ↔ (name, value) ∈ entries := by
  rw [ofList, get?_foldl_insert hnames, get?_empty]
  simp

theorem mem_names_iff (d : Directory α) {name : String} :
    name ∈ d.names ↔ ∃ value, d.get? name = some value := by
  simp [names, d.get?_eq_some_iff]

theorem names_ascending (d : Directory α) : d.names.Pairwise (· < ·) :=
  List.pairwise_map.mpr d.ascending

theorem names_nodup (d : Directory α) : d.names.Nodup :=
  d.names_ascending.imp ne_of_lt

/-- A directory is the directory of its entries. -/
theorem ofList_entries (d : Directory α) : ofList d.entries = d := by
  apply ext_get?
  intro name
  apply Option.ext
  intro value
  rw [get?_ofList d.names_nodup, d.get?_eq_some_iff]

end Directory

namespace Policy

open ObjectAccess.Json

namespace Group

/-- Different groups have different names. -/
theorem name_injective : Function.Injective name := by
  intro g h heq
  cases g <;> cases h <;> first | rfl | exact absurd heq (by decide)

theorem ofName?_eq_some_iff {name : String} {g : Group} :
    ofName? name = some g ↔ g.name = name := by
  constructor
  · intro h
    have hname := List.find?_some (h : all.find? (fun g => g.name = name) = some g)
    exact of_decide_eq_true hname
  · rintro rfl
    cases g <;> decide

theorem names_all_nodup : (all.map name).Nodup := by
  decide

end Group

/-! ## The parts -/

/-- The paths of the groups, and the paths of the names that are no group. -/
@[ext]
structure Parts where
  groups : Group → Option (List String)
  others : Directory (List String)

namespace Parts

/-- The parts without names. -/
def empty : Parts := ⟨fun _ => none, Directory.empty⟩

/-- Sets the paths of a group. -/
def insert (p : Parts) (g : Group) (paths : List String) : Parts :=
  ⟨fun h => if h = g then some paths else p.groups h, p.others⟩

/-- Puts an entry into the part where it belongs. -/
def add (p : Parts) (e : String × List String) : Parts :=
  match Group.ofName? e.1 with
  | some g => p.insert g e.2
  | none => ⟨p.groups, p.others.insert e.1 e.2⟩

/-- The parts of entries, taken one after the other. -/
def ofEntries (entries : List (String × List String)) : Parts := entries.foldl add empty

/-- The entries of the groups that are present. -/
def groupEntries (p : Parts) : List (String × List String) :=
  Group.all.filterMap fun g => (p.groups g).map fun paths => (g.name, paths)

/-- Both parts as one directory; of a name in both, the other names count. -/
def entries (p : Parts) : Directory (List String) :=
  Directory.ofList (p.groupEntries ++ p.others.entries)

/-- The text of both parts. -/
def text (p : Parts) : String :=
  (Value.object (p.entries.entries.map fun e => (e.1, .texts e.2))).compactText

/-- Reads parts from a text. -/
def ofText (text : String) : Except String Parts :=
  (decodeText (dictionary (Json.list string)) text).map fun entries =>
    ofEntries (Directory.ofList entries).entries

/-- Whether no other name is the name of a group. -/
def Separate (p : Parts) : Prop := ∀ g : Group, p.others.get? g.name = none

/-- The paths of a name, in the part where it belongs. -/
def get? (p : Parts) (name : String) : Option (List String) :=
  match Group.ofName? name with
  | some g => p.groups g
  | none => p.others.get? name

variable {p q : Parts}

theorem get?_name (p : Parts) (g : Group) : p.get? g.name = p.groups g := by
  rw [get?, Group.ofName?_eq_some_iff.mpr rfl]

theorem get?_of_no_group (p : Parts) {name : String} (h : Group.ofName? name = none) :
    p.get? name = p.others.get? name := by
  rw [get?, h]

/-! ## No name in both parts -/

theorem separate_empty : empty.Separate := fun _ => rfl

theorem Separate.insert (h : p.Separate) (g : Group) (paths : List String) :
    (p.insert g paths).Separate := h

theorem Separate.add (h : p.Separate) (e : String × List String) : (p.add e).Separate := by
  unfold Parts.add
  split
  · exact h.insert _ _
  · next hnone =>
      intro g
      have hne : g.name ≠ e.1 := Group.ofName?_eq_none_iff.mp hnone g
      exact (p.others.get?_insert_of_ne e.2 hne).trans (h g)

theorem separate_ofEntries (entries : List (String × List String)) :
    (ofEntries entries).Separate := by
  suffices h : ∀ p : Parts, p.Separate → (entries.foldl Parts.add p).Separate from
    h empty separate_empty
  induction entries with
  | nil => exact fun p hp => hp
  | cons e others ih => exact fun p hp => ih (p.add e) (hp.add e)

/-- Separate parts with the same paths under each name are equal. -/
theorem Separate.ext (hp : p.Separate) (hq : q.Separate) (h : ∀ name, p.get? name = q.get? name) :
    p = q := by
  have hgroups : p.groups = q.groups := by
    funext g
    rw [← p.get?_name, ← q.get?_name, h]
  have hothers : p.others = q.others := by
    apply Directory.ext_get?
    intro name
    cases hname : Group.ofName? name with
    | some g => rw [← Group.ofName?_eq_some_iff.mp hname, hp g, hq g]
    | none => rw [← p.get?_of_no_group hname, ← q.get?_of_no_group hname, h]
  exact Parts.ext hgroups hothers

/-! ## The parts of a directory -/

theorem get?_insert (p : Parts) (g : Group) (paths : List String) (name : String) :
    (p.insert g paths).get? name = if name = g.name then some paths else p.get? name := by
  cases hname : Group.ofName? name with
  | some h =>
      obtain rfl := Group.ofName?_eq_some_iff.mp hname
      simp only [get?_name, Parts.insert, Group.name_injective.eq_iff]
  | none =>
      have hne : name ≠ g.name := fun heq => Group.ofName?_eq_none_iff.mp hname g heq.symm
      rw [get?_of_no_group _ hname, get?_of_no_group _ hname, if_neg hne]
      rfl

theorem get?_add (p : Parts) (e : String × List String) (name : String) :
    (p.add e).get? name = if name = e.1 then some e.2 else p.get? name := by
  unfold add
  split
  · next g hg => rw [p.get?_insert, Group.ofName?_eq_some_iff.mp hg]
  · next hnone =>
      by_cases hname : name = e.1
      · subst hname
        rw [get?_of_no_group _ hnone, if_pos rfl, Directory.get?_insert_self]
      · rw [if_neg hname]
        simp only [get?, p.others.get?_insert_of_ne e.2 hname]

/-- The parts and the directory of the same entries have the same paths under each name. -/
theorem get?_ofEntries (entries : List (String × List String)) (name : String) :
    (ofEntries entries).get? name = (Directory.ofList entries).get? name := by
  suffices h : ∀ (p : Parts) (d : Directory (List String)), p.get? name = d.get? name →
      (entries.foldl Parts.add p).get? name =
        (entries.foldl (fun d e => d.insert e.1 e.2) d).get? name by
    -- Without names the two agree, in whichever part the name would stand.
    apply h
    unfold get?
    split <;> rfl
  induction entries with
  | nil => exact fun p d h => h
  | cons e others ih =>
      intro p d h
      apply ih
      by_cases hname : name = e.1
      · rw [p.get?_add, if_pos hname, hname, d.get?_insert_self]
      · rw [p.get?_add, if_neg hname, d.get?_insert_of_ne e.2 hname, h]

theorem mem_groupEntries {name : String} {paths : List String} :
    (name, paths) ∈ p.groupEntries ↔ ∃ g : Group, g.name = name ∧ p.groups g = some paths := by
  simp only [groupEntries, List.mem_filterMap, Option.map_eq_some_iff, Prod.mk.injEq]
  constructor
  · rintro ⟨g, -, _, hpaths, rfl, rfl⟩
    exact ⟨g, rfl, hpaths⟩
  · rintro ⟨g, rfl, hpaths⟩
    exact ⟨g, Group.mem_all g, paths, hpaths, rfl, rfl⟩

theorem names_groupEntries_sublist (p : Parts) :
    (p.groupEntries.map (·.1)).Sublist (Group.all.map Group.name) := by
  rw [groupEntries]
  induction Group.all with
  | nil => exact .slnil
  | cons g others ih =>
      cases hg : p.groups g with
      | none => simpa [hg] using ih.cons g.name
      | some paths => simpa [hg] using ih

/-- The names of both parts are different. -/
theorem Separate.names_nodup (h : p.Separate) :
    ((p.groupEntries ++ p.others.entries).map (·.1)).Nodup := by
  rw [List.map_append, List.nodup_append']
  refine ⟨Group.names_all_nodup.sublist p.names_groupEntries_sublist, p.others.names_nodup, ?_⟩
  intro name hgroup hother
  obtain ⟨⟨_, _⟩, hmem, rfl⟩ := List.mem_map.mp hgroup
  obtain ⟨⟨_, paths⟩, hmem', rfl⟩ := List.mem_map.mp hother
  obtain ⟨g, hname, -⟩ := mem_groupEntries.mp hmem
  have hnone := h g
  rw [hname, (p.others.get?_eq_some_iff).mpr hmem'] at hnone
  cases hnone

/-- A name has the paths in the joined directory that it has in its part. -/
theorem Separate.get?_entries (h : p.Separate) (name : String) :
    p.entries.get? name = p.get? name := by
  apply Option.ext
  intro paths
  rw [entries, Directory.get?_ofList h.names_nodup, List.mem_append, mem_groupEntries,
    ← Directory.get?_eq_some_iff]
  cases hname : Group.ofName? name with
  | some g =>
      obtain rfl := Group.ofName?_eq_some_iff.mp hname
      rw [h g, p.get?_name]
      simp [Group.name_injective.eq_iff]
  | none =>
      have hno : ¬∃ g : Group, g.name = name ∧ p.groups g = some paths :=
        fun ⟨g, hg, _⟩ => Group.ofName?_eq_none_iff.mp hname g hg
      rw [p.get?_of_no_group hname, or_iff_right hno]

/-- Joining the parts of a directory gives the directory. -/
theorem entries_ofEntries (d : Directory (List String)) : (ofEntries d.entries).entries = d := by
  apply Directory.ext_get?
  intro name
  rw [(separate_ofEntries _).get?_entries, get?_ofEntries, d.ofList_entries]

end Parts

/-! ## The parts of a specification -/

namespace Specification

/-- The parts of a specification. -/
def parts (s : Specification) : Parts := Parts.ofEntries s.entries.entries

theorem separate_parts (s : Specification) : s.parts.Separate := Parts.separate_ofEntries _

theorem entries_parts (s : Specification) : s.parts.entries = s.entries :=
  Parts.entries_ofEntries s.entries

theorem get?_parts (s : Specification) (name : String) :
    s.parts.get? name = s.entries.get? name := by
  rw [parts, Parts.get?_ofEntries, s.entries.ofList_entries]

theorem groups_parts (s : Specification) (g : Group) :
    s.parts.groups g = s.entries.get? g.name := by
  rw [← s.parts.get?_name, s.get?_parts]

/-- The other names are the unrecognized ones. -/
theorem names_others_parts (s : Specification) (name : String) :
    name ∈ s.parts.others.names ↔ name ∈ s.unrecognized := by
  rw [unrecognized, List.mem_filter, Directory.mem_names_iff, Directory.mem_names_iff,
    Option.isNone_iff_eq_none]
  cases hname : Group.ofName? name with
  | some g =>
      rw [← Group.ofName?_eq_some_iff.mp hname, s.separate_parts g]
      simp
  | none => simp [← s.parts.get?_of_no_group hname, s.get?_parts]

/-- Setting the paths of a group sets them in the parts. -/
theorem parts_insert (s : Specification) (g : Group) (paths : List String) :
    (s.insert g paths).parts = s.parts.insert g paths := by
  apply (separate_parts _).ext (s.separate_parts.insert g paths)
  intro name
  rw [get?_parts, Parts.get?_insert, insert]
  by_cases hname : name = g.name
  · rw [if_pos hname, hname, Directory.get?_insert_self]
  · rw [if_neg hname, s.get?_parts, s.entries.get?_insert_of_ne paths hname]

theorem text_parts (s : Specification) : s.parts.text = s.text := by
  rw [Parts.text, s.entries_parts]
  rfl

/-! ## Reading back -/

/-- The entries of a specification are recovered from its JSON. -/
theorem recovers (s : Specification) :
    Recovers (dictionary (Json.list string)) s.toJson s.entries.entries := by
  apply Recovers.dictionary
  rw [List.forall₂_map_left_iff]
  exact List.forall₂_same.mpr fun e _ => ⟨rfl, Recovers.texts e.2⟩

theorem decodeText_text (s : Specification) :
    decodeText (dictionary (Json.list string)) s.text = .ok s.entries.entries := by
  rw [text, Value.compactText_eq, s.recovers.decodeText]

/-- The text of a specification is read as that specification. -/
theorem ofText_text (s : Specification) : ofText s.text = .ok s := by
  rw [ofText, s.decodeText_text, Except.map, s.entries.ofList_entries]

end Specification

/-- Reading the parts of a text is reading the specification and taking its parts. -/
theorem Parts.ofText_eq (text : String) :
    Parts.ofText text = (Specification.ofText text).map Specification.parts := by
  rw [Parts.ofText, Specification.ofText]
  cases decodeText (dictionary (Json.list string)) text <;> rfl

/-! ## Building -/

/-- The specification read from a text, or the one without names, with the paths of groups set
one after the other. -/
def Specification.build (text : Option String) (steps : List (Group × List String)) :
    Except String Specification :=
  ((text.map ofText).getD (.ok empty)).map fun s =>
    steps.foldl (fun s step => s.insert step.1 step.2) s

/-- The parts built in the same way. -/
def Parts.build (text : Option String) (steps : List (Group × List String)) :
    Except String Parts :=
  ((text.map ofText).getD (.ok empty)).map fun p =>
    steps.foldl (fun p step => p.insert step.1 step.2) p

/-- Setting paths one after the other sets them in the parts. -/
theorem Specification.parts_foldl_insert (steps : List (Group × List String))
    (s : Specification) :
    (steps.foldl (fun s step => s.insert step.1 step.2) s).parts =
      steps.foldl (fun p step => p.insert step.1 step.2) s.parts := by
  induction steps generalizing s with
  | nil => rfl
  | cons step others ih => rw [List.foldl_cons, List.foldl_cons, ih, s.parts_insert]

/-- What is built in parts are the parts of what is built as one directory. -/
theorem Parts.build_eq (text : Option String) (steps : List (Group × List String)) :
    Parts.build text steps = (Specification.build text steps).map Specification.parts := by
  have hstart : (text.map Parts.ofText).getD (.ok Parts.empty) =
      ((text.map Specification.ofText).getD (.ok Specification.empty)).map Specification.parts := by
    cases text with
    | none => rfl
    | some t => exact Parts.ofText_eq t
  rw [Parts.build, Specification.build, hstart]
  cases (text.map Specification.ofText).getD (.ok Specification.empty) with
  | error reason => rfl
  | ok s => exact congrArg Except.ok (s.parts_foldl_insert steps).symm

/-- **A specification comes back from its text**, held in two parts or as one directory, whatever
its names and paths are.  No other name is the name of a group, so the text has a member for each
name of both parts, with the paths as they were set, and the names ascend. -/
theorem Specification.ofText_of_build {text : Option String} {steps : List (Group × List String)}
    {p : Parts} (h : Parts.build text steps = .ok p) :
    (∀ g : Group, g.name ∉ p.others.names) ∧
    Parts.ofText p.text = .ok p ∧
    (∃ members : List (String × List String),
      p.text = (Value.object (members.map fun m => (m.1, .texts m.2))).compactText ∧
      (members.map (·.1)).Pairwise (· < ·) ∧
      ∀ name paths, (name, paths) ∈ members ↔
        (∃ g : Group, g.name = name ∧ p.groups g = some paths) ∨
          p.others.get? name = some paths) ∧
    ∃ s, Specification.build text steps = .ok s ∧ s.parts = p ∧
      (∀ g : Group, s.entries.get? g.name = p.groups g) ∧
      (∀ name, name ∈ s.unrecognized ↔ name ∈ p.others.names) ∧
      s.text = p.text ∧ Specification.ofText s.text = .ok s := by
  obtain ⟨s, hs, rfl⟩ := map_eq_ok_iff.mp ((Parts.build_eq text steps).symm.trans h)
  refine ⟨?_, ?_, ⟨s.parts.entries.entries, rfl, s.parts.entries.names_ascending, ?_⟩,
    s, hs, rfl, fun g => (s.groups_parts g).symm, fun name => (s.names_others_parts name).symm,
    s.text_parts.symm, s.ofText_text⟩
  · intro g hg
    obtain ⟨paths, hpaths⟩ := s.parts.others.mem_names_iff.mp hg
    rw [s.separate_parts g] at hpaths
    cases hpaths
  · rw [s.text_parts, Parts.ofText_eq, s.ofText_text]
    rfl
  · intro name paths
    rw [← Directory.get?_eq_some_iff, Parts.entries,
      Directory.get?_ofList s.separate_parts.names_nodup, List.mem_append, Parts.mem_groupEntries,
      ← Directory.get?_eq_some_iff]

/-- The theorem at a text with a name in quotes, a group that comes twice, the second time without
paths, and a group that is set again with a path twice. -/
theorem Specification.ofText_of_build_repeated :
    let text := "\x7b\"write\":[\"x\"],\"a\\\"b\":[\"é\",\"é\"],\"read\":[\"x\"],\"read\":[]\x7d"
    ∃ p, Parts.build (some text) [(.write, ["w", "v", "w"])] = .ok p ∧
      p.groups .read = some [] ∧ p.groups .write = some ["w", "v", "w"] ∧
      p.others.entries = [("a\"b", ["é", "é"])] ∧ Parts.ofText p.text = .ok p := by
  intro text
  have hview : (Parts.build (some text) [(.write, ["w", "v", "w"])]).map
      (fun p => (p.groups .read, p.groups .write, p.others.entries)) =
      .ok (some [], some ["w", "v", "w"], [("a\"b", ["é", "é"])]) := by decide +kernel
  obtain ⟨p, hbuild, hparts⟩ := map_eq_ok_iff.mp hview
  obtain ⟨hread, hwrite, hothers⟩ : _ ∧ _ ∧ _ := by simpa only [Prod.mk.injEq] using hparts
  obtain ⟨-, hback, -⟩ := ofText_of_build hbuild
  exact ⟨p, hbuild, hread, hwrite, hothers, hback⟩

end Policy

end ObjectAccess
