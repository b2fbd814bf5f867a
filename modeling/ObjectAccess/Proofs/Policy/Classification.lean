import ObjectAccess.Proofs.Policy.Parts

/-!
# The combination of a set of groups

A set of groups is told in three ways: by a number with a bit for each group, by one of the seven
combinations, and by the names of the groups in ascending order.  The number of a list of groups
depends only on which groups occur in it (`mask_eq`), and the combination of the list is the one
with that number (`Combination.find?_mask`).  So it contains the groups of the list, whatever
their order and repetition.

The names of a specification are those of its groups and the unrecognized ones, sorted
(`Specification.sorted_names`).  Without unrecognized names they are the key of the combination;
with some of them there is no combination, and all names stand in the key that is reported
(`classification_of_groups`).
-/

namespace ObjectAccess.Policy

set_option autoImplicit false

/-! ## Numbers of sets -/

/-- The bit of a group. -/
def Group.bit : Group → UInt8
  | .read => 1
  | .readWrite => 2
  | .write => 4

/-- The number of a list of groups. -/
def mask (groups : List Group) : UInt8 := groups.foldl (fun m g => m ||| g.bit) 0

/-- The number of a set of groups. -/
def maskOf (present : Group → Bool) : UInt8 :=
  (bif present .read then 1 else 0) ||| (bif present .readWrite then 2 else 0) |||
    bif present .write then 4 else 0

/-- Another group adds its bit, unless it is there already. -/
theorem maskOf_or_bit (present : Group → Bool) (g : Group) :
    maskOf present ||| g.bit = maskOf fun h => present h || h = g := by
  simp only [maskOf]
  generalize present .read = r, present .readWrite = rw, present .write = w
  cases g <;> revert r rw w <;> decide

theorem foldl_bit (groups : List Group) (present : Group → Bool) :
    groups.foldl (fun m g => m ||| g.bit) (maskOf present) =
      maskOf fun h => present h || h ∈ groups := by
  -- Each group goes into the set that the number stands for, so the set is any set.
  induction groups generalizing present with
  | nil => simp
  | cons g others ih =>
      rw [List.foldl_cons, maskOf_or_bit, ih]
      simp only [List.mem_cons, Bool.decide_or, Bool.or_assoc]

/-- The number of a list is the number of the groups that occur in it. -/
theorem mask_eq (groups : List Group) : mask groups = maskOf fun g => g ∈ groups := by
  have hempty : (0 : UInt8) = maskOf fun _ => false := rfl
  rw [mask, hempty, foldl_bit]
  simp only [Bool.false_or]

/-! ## Combinations -/

namespace Combination

/-- All combinations. -/
def all : List Combination :=
  [.read, .write, .readWrite, .readAndReadWrite, .readWriteAndWrite, .readAndWrite,
    .readAndReadWriteAndWrite]

/-- The number of a combination. -/
def mask : Combination → UInt8
  | .read => Group.bit .read
  | .write => Group.bit .write
  | .readWrite => Group.bit .readWrite
  | .readAndReadWrite => Group.bit .read ||| Group.bit .readWrite
  | .readWriteAndWrite => Group.bit .readWrite ||| Group.bit .write
  | .readAndWrite => Group.bit .read ||| Group.bit .write
  | .readAndReadWriteAndWrite => Group.bit .read ||| Group.bit .readWrite ||| Group.bit .write

/-- A combination contains the groups whose bits its number has. -/
theorem contains_iff_mask (c : Combination) (g : Group) :
    c.contains g = true ↔ c.mask &&& g.bit ≠ 0 := by
  cases c <;> cases g <;> decide

/-- The combination of a list is the one with its number. -/
theorem find?_mask (groups : List Group) :
    (all.find? fun c => c.mask = Policy.mask groups) = ofGroups? groups := by
  -- Both sides depend on the same three truth values.
  rw [mask_eq, maskOf, ofGroups?]
  generalize decide (Group.read ∈ groups) = r, decide (Group.readWrite ∈ groups) = rw,
    decide (Group.write ∈ groups) = w
  revert r rw w
  decide

/-- Different combinations contain different groups. -/
theorem eq_of_contains {c d : Combination} (h : ∀ g, c.contains g = true ↔ d.contains g = true) :
    c = d := by
  have hread := h .read
  have hreadWrite := h .readWrite
  have hwrite := h .write
  revert hread hreadWrite hwrite
  cases c <;> cases d <;> decide

theorem ofGroups?_eq_none_iff_nil {groups : List Group} :
    ofGroups? groups = none ↔ groups = [] := by
  rw [ofGroups?_eq_none_iff, List.eq_nil_iff_forall_not_mem]

/-- A list that is not empty has the combination of its groups. -/
theorem ofGroups?_eq_some_iff {groups : List Group} {c : Combination} :
    ofGroups? groups = some c ↔ groups ≠ [] ∧ ∀ g, c.contains g = true ↔ g ∈ groups := by
  constructor
  · intro h
    refine ⟨fun hnil => ?_, contains_of_ofGroups? h⟩
    rw [ofGroups?_eq_none_iff_nil.mpr hnil] at h
    cases h
  · rintro ⟨hne, hcontains⟩
    cases hd : ofGroups? groups with
    | none => exact absurd (ofGroups?_eq_none_iff_nil.mp hd) hne
    | some d =>
        have heq : d = c :=
          eq_of_contains fun g => (contains_of_ofGroups? hd g).trans (hcontains g).symm
        rw [heq]

/-- The key of a combination has the names of its groups, in ascending order. -/
theorem key_eq (c : Combination) :
    c.key = String.intercalate "&" ((Group.all.filter c.contains).map Group.name) := by
  cases c <;> decide

end Combination

/-! ## Specifications -/

namespace Specification

variable (s : Specification)

theorem mem_names_iff {name : String} : name ∈ s.entries.names ↔
    name ∈ s.groups.map Group.name ∨ name ∈ s.unrecognized := by
  have hgroup (g : Group) : g.name ∈ s.entries.names ↔ s.contains g = true := by
    rw [contains, Directory.contains, Option.isSome_iff_exists, Directory.mem_names_iff]
  simp only [List.mem_map, s.mem_groups, s.mem_unrecognized]
  cases hname : Group.ofName? name with
  | some g =>
      obtain rfl := Group.ofName?_eq_some_iff.mp hname
      simp [hgroup, Group.name_injective.eq_iff]
  | none =>
      have hno := Group.ofName?_eq_none_iff.mp hname
      simp [hno]

/-- The names of a specification are those of its groups and the unrecognized ones. -/
theorem names_perm : (s.groups.map Group.name ++ s.unrecognized).Perm s.entries.names := by
  have hgroups : (s.groups.map Group.name).Nodup :=
    Group.names_all_nodup.sublist (List.filter_sublist.map _)
  have hothers : s.unrecognized.Nodup := s.entries.names_nodup.sublist List.filter_sublist
  have hdisjoint : List.Disjoint (s.groups.map Group.name) s.unrecognized := by
    intro name hgroup hother
    obtain ⟨g, -, hname⟩ := List.mem_map.mp hgroup
    exact (s.mem_unrecognized.mp hother).2 g hname
  refine (List.perm_ext_iff_of_nodup (hgroups.append hothers hdisjoint)
    s.entries.names_nodup).mpr fun name => ?_
  rw [List.mem_append, s.mem_names_iff]

/-- Sorting the names of the groups and the unrecognized ones gives the names as they stand. -/
theorem sorted_names :
    (s.groups.map Group.name ++ s.unrecognized).mergeSort (· ≤ ·) = s.entries.names := by
  have hsorted := List.pairwise_mergeSort' (· ≤ ·) (s.groups.map Group.name ++ s.unrecognized)
  have hnames : s.entries.names.Pairwise (· ≤ ·) := s.entries.names_ascending.imp le_of_lt
  exact List.Perm.eq_of_pairwise (fun a b _ _ => le_antisymm) hsorted hnames
    ((List.mergeSort_perm _ _).trans s.names_perm)

theorem combination?_eq_some_iff {c : Combination} : s.combination? = some c ↔
    s.unrecognized = [] ∧ (∃ g, s.contains g = true) ∧ ∀ g, c.contains g = s.contains g := by
  have hgroups : s.groups ≠ [] ↔ ∃ g, s.contains g = true := by
    simp only [ne_eq, List.eq_nil_iff_forall_not_mem, s.mem_groups, not_forall, not_not]
  have hcontains : (∀ g, c.contains g = true ↔ g ∈ s.groups) ↔
      ∀ g, c.contains g = s.contains g :=
    forall_congr' fun g => by rw [s.mem_groups, ← Bool.eq_iff_iff]
  rw [combination?]
  split
  · next hempty =>
      rw [Combination.ofGroups?_eq_some_iff, hgroups, hcontains,
        and_iff_right (List.isEmpty_iff.mp hempty)]
  · next hother => exact iff_of_false (by simp) fun h => hother (List.isEmpty_iff.mpr h.1)

/-- The key of a specification with a combination is the key of the combination. -/
theorem key_of_combination? {c : Combination} (h : s.combination? = some c) :
    s.key = c.key := by
  obtain ⟨hnone, -, hcontains⟩ := s.combination?_eq_some_iff.mp h
  have hall : (Group.all.map Group.name).Pairwise (· < ·) := by decide
  have hsorted : (s.groups.map Group.name).Pairwise (· < ·) :=
    hall.sublist (List.filter_sublist.map _)
  have hnames : s.entries.names = s.groups.map Group.name := by
    have hperm := s.names_perm
    rw [hnone, List.append_nil] at hperm
    exact List.Perm.eq_of_pairwise (fun a b _ _ hab hba => absurd hab (lt_asymm hba))
      s.entries.names_ascending hsorted hperm.symm
  rw [key, hnames, c.key_eq, funext hcontains, groups]

end Specification

/-! ## The classification -/

/-- **The combination of a list holds the groups of the list**, and only the empty list has none.
It is the one whose bits are the bits of the groups.  A specification has a combination just if it
has a group and no unrecognized name, be the paths of the group empty or not.  The combination
then holds the groups that are present, and both have the same key.  Otherwise the key has all
names, and it is the key that compiling reports. -/
theorem classification_of_groups :
    (∀ groups : List Group,
      (Combination.ofGroups? groups = none ↔ groups = []) ∧
      (∀ c, Combination.ofGroups? groups = some c ↔
        groups ≠ [] ∧ ∀ g, c.contains g = true ↔ g ∈ groups) ∧
      Combination.ofGroups? groups = Combination.all.find? fun c => c.mask = mask groups) ∧
    (∀ (c : Combination) (g : Group), c.contains g = true ↔ c.mask &&& g.bit ≠ 0) ∧
    ∀ s : Specification,
      (s.combination?.isSome = true ↔ s.unrecognized = [] ∧ ∃ g, s.contains g = true) ∧
      (∀ c, s.combination? = some c → (∀ g, c.contains g = s.contains g) ∧ s.key = c.key) ∧
      (s.combination? = none → ∀ bucket,
        compile s bucket = .error (.unsupportedCombination s.key)) ∧
      ∃ names : List String, s.key = String.intercalate "&" names ∧
        names = (s.groups.map Group.name ++ s.unrecognized).mergeSort (· ≤ ·) ∧
        names.Pairwise (· < ·) ∧
        ∀ name, name ∈ names ↔ (∃ g, s.contains g = true ∧ g.name = name) ∨
          name ∈ s.unrecognized := by
  refine ⟨fun groups => ⟨Combination.ofGroups?_eq_none_iff_nil,
    fun c => Combination.ofGroups?_eq_some_iff, (Combination.find?_mask groups).symm⟩,
    Combination.contains_iff_mask, fun s => ⟨?_, fun c hc => ?_, fun hnone bucket => ?_,
      s.entries.names, rfl, s.sorted_names.symm, s.entries.names_ascending, fun name => ?_⟩⟩
  · constructor
    · intro hsome
      obtain ⟨c, hc⟩ := Option.isSome_iff_exists.mp hsome
      obtain ⟨hother, hgroup, -⟩ := s.combination?_eq_some_iff.mp hc
      exact ⟨hother, hgroup⟩
    · rintro ⟨hother, g, hg⟩
      rw [Specification.combination?, if_pos (List.isEmpty_iff.mpr hother),
        Option.isSome_iff_ne_none, ne_eq, Combination.ofGroups?_eq_none_iff]
      exact fun hno => hno g ((s.mem_groups g).mpr hg)
  · exact ⟨s.contains_combination hc, s.key_of_combination? hc⟩
  · rw [compile, compile?, hnone]
    rfl
  · rw [s.mem_names_iff, List.mem_map]
    simp only [s.mem_groups]

/-- An unrecognized name stands between the names of the groups. -/
example :
    let s : Specification :=
      ⟨Directory.ofList [("write", []), ("zeta", ["z"]), ("read", ["r"]), ("admin", ["x"])]⟩
    s.combination? = none ∧ s.key = "admin&read&write&zeta" := by decide +kernel

end ObjectAccess.Policy
