import ObjectAccess.Proofs.Policy.Listing

/-!
# The statements of a policy, group by group

The table of rules has a row for each combination of groups.  It can be had from the groups
one by one: what is permitted on the bucket depends on which groups are present, the listing
is there for the groups that read, and each group that is present brings a statement on its
objects (`rules_eq_groupRules`).  So the statements of a policy are those that
`Specification.statements` puts together from the paths of the groups, without the table
(`statements_of_compile?`), and there is no policy just if the table has no row.
-/

namespace ObjectAccess.Policy

set_option autoImplicit false

/-! ## What the groups permit -/

namespace Group

/-- Whether the objects of a group can be downloaded. -/
def reads : Group → Bool
  | .read | .readWrite => true
  | .write => false

/-- Whether objects can be uploaded to a group. -/
def writes : Group → Bool
  | .write | .readWrite => true
  | .read => false

/-- What a group permits on its objects: downloads if it reads, uploads if it writes. -/
def actions (g : Group) : List Action :=
  (if g.reads then [.getObject] else []) ++
    if g.writes then [.putObject, .abortMultipartUpload, .deleteObject, .listMultipartUploadParts]
    else []

theorem objectActions_eq (g : Group) : objectActions g = g.actions := by
  cases g <;> rfl

theorem mem_all (g : Group) : g ∈ all := by
  cases g <;> decide

theorem ofName?_eq_none_iff {name : String} : ofName? name = none ↔ ∀ g : Group, g.name ≠ name := by
  simp [ofName?, mem_all]

end Group

/-! ## The rows of the table -/

section Present

variable (present : Group → Bool)

/-- What is permitted on the bucket itself: its location, listing if `write` stands together with
a group that reads, and listing uploads if a group writes. -/
def bucketActions : List Action :=
  [.getBucketLocation] ++
    (if present .write && (present .read || present .readWrite) then [.listBucket] else []) ++
    if present .write || present .readWrite then [.listBucketMultipartUploads] else []

/-- The rules of the groups that are present. -/
def groupRules : List Rule :=
  [.onBucket (bucketActions present)] ++
    (if present .read || present .readWrite then [.listing] else []) ++
    ([.readWrite, .read, .write].filter present).map .onObjects

end Present

/-- Each row of the table holds the rules of its groups. -/
theorem rules_eq_groupRules (c : Combination) : rules c = groupRules c.contains := by
  cases c <;> rfl

/-! ## The statements of a specification -/

namespace Specification

variable (s : Specification) (bucket : String)

/-- The statement on the bucket itself. -/
def bucketStatement : Statement :=
  ⟨.allow, ⟨["*"]⟩, bucketActions s.contains, ["arn:aws:s3:::" ++ bucket], none⟩

/-- The statement that lists the paths of the groups that read. -/
def listingStatement : Statement :=
  ⟨.allow, ⟨["*"]⟩, [.listBucket], ["arn:aws:s3:::" ++ bucket],
    some ⟨s.paths .read ++ s.paths .readWrite⟩⟩

/-- The statement on the objects of a group. -/
def objectStatement (g : Group) : Statement :=
  ⟨.allow, ⟨["*"]⟩, g.actions,
    (s.paths g).map fun path => "arn:aws:s3:::" ++ bucket ++ "/" ++ path ++ "*", none⟩

/-- The statements of the groups that are present. -/
def statements : List Statement :=
  [s.bucketStatement bucket] ++
    (if s.contains .read || s.contains .readWrite then [s.listingStatement bucket] else []) ++
    ([.readWrite, .read, .write].filter s.contains).map (s.objectStatement bucket)

theorem statement_onBucket :
    Rule.statement s bucket (.onBucket (bucketActions s.contains)) = s.bucketStatement bucket := rfl

theorem statement_listing : Rule.statement s bucket .listing = s.listingStatement bucket := by
  have hprefixes : listable.flatMap s.paths = s.paths .read ++ s.paths .readWrite := by
    simp [listable]
  rw [Rule.statement, hprefixes]
  rfl

theorem statement_onObjects (g : Group) :
    Rule.statement s bucket (.onObjects g) = s.objectStatement bucket g := by
  rw [Rule.statement, Group.objectActions_eq]
  rfl

theorem map_statement_groupRules :
    (groupRules s.contains).map (Rule.statement s bucket) = s.statements bucket := by
  have hlisting : (if s.contains .read || s.contains .readWrite then [Rule.listing] else []).map
      (Rule.statement s bucket) =
        if s.contains .read || s.contains .readWrite then [s.listingStatement bucket] else [] := by
    rw [apply_ite (List.map _), List.map_singleton, statement_listing, List.map_nil]
  have hobjects : Rule.statement s bucket ∘ Rule.onObjects = s.objectStatement bucket :=
    funext (s.statement_onObjects bucket)
  rw [groupRules, List.map_append, List.map_append, List.map_singleton, statement_onBucket,
    hlisting, List.map_map, hobjects, statements]

/-- All statements permit something to everyone. -/
theorem allow_of_mem_statements {st : Statement} (h : st ∈ s.statements bucket) :
    st.effect = .allow ∧ st.principal.accounts = ["*"] := by
  rw [← map_statement_groupRules] at h
  obtain ⟨rule, -, rfl⟩ := List.mem_map.mp h
  cases rule <;> exact ⟨rfl, rfl⟩

theorem length_statements :
    (s.statements bucket).length =
      1 + (s.contains .read || s.contains .readWrite).toNat + s.groups.length := by
  have hgroups : ([.readWrite, .read, .write].filter s.contains).Perm s.groups :=
    (List.Perm.swap ..).filter _
  rw [statements, List.length_append, List.length_append, List.length_map, hgroups.length_eq]
  cases s.contains .read || s.contains .readWrite <;> rfl

end Specification

/-! ## No policy -/

/-- Only the empty set of groups forms no combination. -/
theorem Combination.ofGroups?_eq_none_iff {groups : List Group} :
    ofGroups? groups = none ↔ ∀ g, g ∉ groups := by
  constructor
  · intro h
    by_cases hread : Group.read ∈ groups <;> by_cases hreadWrite : Group.readWrite ∈ groups <;>
      by_cases hwrite : Group.write ∈ groups <;>
      simp only [ofGroups?, hread, hreadWrite, hwrite, decide_true, decide_false,
        reduceCtorEq] at h
    intro g
    cases g with
    | read => exact hread
    | readWrite => exact hreadWrite
    | write => exact hwrite
  · intro h
    simp only [ofGroups?, h, decide_false]

namespace Specification

variable (s : Specification) (bucket : String)

theorem mem_unrecognized {name : String} : name ∈ s.unrecognized ↔
    name ∈ s.entries.names ∧ ∀ g : Group, g.name ≠ name := by
  rw [unrecognized, List.mem_filter, Option.isNone_iff_eq_none, Group.ofName?_eq_none_iff]

/-- The groups form no combination just if there is none or another name stands beside them. -/
theorem combination?_eq_none_iff : s.combination? = none ↔
    (∀ g, s.contains g = false) ∨ ∃ name ∈ s.entries.names, ∀ g : Group, g.name ≠ name := by
  have hnames : s.unrecognized.isEmpty = true ↔
      ¬∃ name ∈ s.entries.names, ∀ g : Group, g.name ≠ name := by
    simp only [List.isEmpty_iff, List.eq_nil_iff_forall_not_mem, mem_unrecognized, not_exists]
  have hgroups : Combination.ofGroups? s.groups = none ↔ ∀ g, s.contains g = false := by
    simp only [Combination.ofGroups?_eq_none_iff, s.mem_groups, Bool.not_eq_true]
  unfold combination?
  split
  · next hempty => rw [hgroups, or_iff_left (hnames.mp hempty)]
  · next hother =>
      rw [hnames, not_not] at hother
      exact iff_of_true rfl (Or.inr hother)

end Specification

/-! ## The statements of a policy -/

/-- **The table of rules is the sum of its groups.**  There is no policy just if no group is present
or another name stands beside the groups.  Otherwise the statements are those of the groups that
are present: one on the bucket itself, one that lists the paths of the groups that read if there
is such a group, and one for each group.  All of them permit something to everyone. -/
theorem statements_of_compile? (s : Specification) (bucket : String) :
    (compile? s bucket = none ↔
      (∀ g, s.contains g = false) ∨ ∃ name ∈ s.entries.names, ∀ g : Group, g.name ≠ name) ∧
    ∀ d, compile? s bucket = some d →
      d.statements = s.statements bucket ∧
      (∀ st ∈ d.statements, st.effect = .allow ∧ st.principal.accounts = ["*"]) ∧
      d.statements.length =
        1 + (s.contains .read || s.contains .readWrite).toNat + s.groups.length := by
  constructor
  · rw [compile?, Option.map_eq_none_iff, s.combination?_eq_none_iff]
  · intro d hd
    obtain ⟨c, hc, hrules⟩ := exists_rules_of_compile? hd
    have hcontains : c.contains = s.contains := funext (s.contains_combination hc)
    have hstatements : d.statements = s.statements bucket := by
      rw [hrules, rules_eq_groupRules, hcontains, s.map_statement_groupRules]
    rw [hstatements]
    exact ⟨rfl, fun st => s.allow_of_mem_statements bucket, s.length_statements bucket⟩

/-- All groups, one of them with a path twice and one of them without paths. -/
def allGroups : Specification :=
  ((Specification.empty.insert .read ["r", "r"]).insert .readWrite []).insert .write ["w"]

/-- The theorem at that specification. -/
theorem statements_of_allGroups :
    ∃ d, compile? allGroups "b1" = some d ∧ d.statements.length = 5 ∧ d.statements =
      [⟨.allow, ⟨["*"]⟩, [.getBucketLocation, .listBucket, .listBucketMultipartUploads],
          ["arn:aws:s3:::b1"], none⟩,
        ⟨.allow, ⟨["*"]⟩, [.listBucket], ["arn:aws:s3:::b1"], some ⟨["r", "r"]⟩⟩,
        ⟨.allow, ⟨["*"]⟩, Group.readWrite.actions, [], none⟩,
        ⟨.allow, ⟨["*"]⟩, [.getObject], ["arn:aws:s3:::b1/r*", "arn:aws:s3:::b1/r*"], none⟩,
        ⟨.allow, ⟨["*"]⟩, Group.write.actions, ["arn:aws:s3:::b1/w*"], none⟩] := by
  obtain ⟨hstatements, -, hlength⟩ := (statements_of_compile? allGroups "b1").2 _ rfl
  exact ⟨_, rfl, hlength, hstatements.trans (by decide)⟩

end ObjectAccess.Policy
