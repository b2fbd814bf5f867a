import ObjectAccess.Proofs.Policy.Statements

/-!
# What a policy grants

The statements of a policy add up: what counts is which action it permits on which resource, and
under which prefix if the permission is for listings.  These grants come from the groups one by
one (`mem_grants_iff`): those on the bucket itself from which groups are present, those to list
from the paths of the groups that read, and those on objects from the paths of each group.

The table of rules has another row for each set of groups, and nothing in its shape keeps a row
from leaving out what a smaller set permits.  But each of the three kinds of grants can only grow
with the groups and their paths, so permissions that are added revoke nothing
(`exists_grants_subset`).
-/

namespace ObjectAccess.Policy

set_option autoImplicit false

/-! ## Grants -/

/-- The permission of an action on a resource. -/
structure Grant where
  action : Action
  resource : String
  /-- The prefix that the permission is conditioned on, if it is. -/
  condition : Option String
  deriving DecidableEq, Repr

/-- The prefixes under which a statement permits something, or no condition at all. -/
def Statement.conditions (st : Statement) : List (Option String) :=
  match st.condition with
  | none => [none]
  | some c => c.prefixes.map some

/-- What a statement grants. -/
def Statement.grants (st : Statement) : List Grant :=
  st.actions.flatMap fun action =>
    st.resources.flatMap fun resource => st.conditions.map (Grant.mk action resource)

/-- What a policy grants. -/
def Document.grants (d : Document) : List Grant := d.statements.flatMap Statement.grants

variable {s t : Specification} {bucket : String} {d : Document} {grant : Grant}

theorem Statement.mem_grants {st : Statement} :
    grant ∈ st.grants ↔
      grant.action ∈ st.actions ∧ grant.resource ∈ st.resources ∧
        grant.condition ∈ st.conditions := by
  simp only [grants, List.mem_flatMap, List.mem_map]
  constructor
  · rintro ⟨action, haction, resource, hresource, condition, hcondition, rfl⟩
    exact ⟨haction, hresource, hcondition⟩
  · rintro ⟨haction, hresource, hcondition⟩
    exact ⟨_, haction, _, hresource, _, hcondition, rfl⟩

/-! ## The grants of the groups -/

theorem mem_ite_singleton {α : Type} {x a : α} {b : Bool} :
    x ∈ (if b then [a] else []) ↔ x = a ∧ b = true := by
  cases b <;> simp

/-- The actions on the bucket, one by one. -/
theorem mem_bucketActions {present : Group → Bool} {action : Action} :
    action ∈ bucketActions present ↔
      action = .getBucketLocation ∨
      (action = .listBucket ∧ present .write = true ∧
        (present .read = true ∨ present .readWrite = true)) ∨
      (action = .listBucketMultipartUploads ∧
        (present .write = true ∨ present .readWrite = true)) := by
  rw [bucketActions, List.mem_append, List.mem_append, List.mem_singleton, mem_ite_singleton,
    mem_ite_singleton, Bool.and_eq_true, Bool.or_eq_true, Bool.or_eq_true, or_assoc]

/-- The rules of the groups that are present, one by one. -/
theorem mem_groupRules {present : Group → Bool} {rule : Rule} :
    rule ∈ groupRules present ↔
      rule = .onBucket (bucketActions present) ∨
      (rule = .listing ∧ (present .read = true ∨ present .readWrite = true)) ∨
      ∃ g, present g = true ∧ rule = .onObjects g := by
  have hgroups : ∀ g : Group, g ∈ [Group.readWrite, .read, .write] := by
    intro g
    cases g <;> decide
  have hobjects : rule ∈ ([Group.readWrite, .read, .write].filter present).map Rule.onObjects ↔
      ∃ g, present g = true ∧ rule = .onObjects g := by
    simp only [List.mem_map, List.mem_filter, hgroups, true_and, eq_comm]
  rw [groupRules, List.mem_append, List.mem_append, List.mem_singleton, mem_ite_singleton,
    Bool.or_eq_true, hobjects, or_assoc]

/-- A policy makes one statement for each rule of its groups. -/
theorem mem_statements_iff (h : compile? s bucket = some d) {st : Statement} :
    st ∈ d.statements ↔ ∃ rule ∈ groupRules s.contains, rule.statement s bucket = st := by
  obtain ⟨c, hc, hstatements⟩ := exists_rules_of_compile? h
  have hcontains : c.contains = s.contains := funext (s.contains_combination hc)
  rw [hstatements, rules_eq_groupRules, hcontains, List.mem_map]

/-- **The grants of a policy come from its groups.**  It grants the actions on the bucket that the
groups call for, to list the bucket under the paths of the groups that read, and the actions of
each group on the objects under its paths. -/
theorem mem_grants_iff (h : compile? s bucket = some d) :
    grant ∈ d.grants ↔
      (∃ action ∈ bucketActions s.contains, grant = ⟨action, bucketResource bucket, none⟩) ∨
      (∃ path ∈ s.listablePaths, grant = ⟨.listBucket, bucketResource bucket, some path⟩) ∨
      ∃ g, ∃ path ∈ s.paths g, ∃ action ∈ g.actions,
        grant = ⟨action, objectsResource bucket path, none⟩ := by
  simp only [Document.grants, List.mem_flatMap, mem_statements_iff h, mem_groupRules]
  constructor
  · rintro ⟨st, ⟨rule, hrule, rfl⟩, hgrant⟩
    obtain ⟨haction, hresource, hcondition⟩ := Statement.mem_grants.mp hgrant
    obtain ⟨action, resource, condition⟩ := grant
    rcases hrule with rfl | ⟨rfl, -⟩ | ⟨g, -, rfl⟩
    · cases List.mem_singleton.mp hresource
      cases List.mem_singleton.mp hcondition
      exact Or.inl ⟨action, haction, rfl⟩
    · cases List.mem_singleton.mp haction
      cases List.mem_singleton.mp hresource
      obtain ⟨path, hpath, rfl⟩ := List.mem_map.mp hcondition
      exact Or.inr (Or.inl ⟨path, hpath, rfl⟩)
    · obtain ⟨path, hpath, rfl⟩ := List.mem_map.mp hresource
      cases List.mem_singleton.mp hcondition
      exact Or.inr (Or.inr ⟨g, path, hpath, action, g.objectActions_eq ▸ haction, rfl⟩)
  · rintro (⟨action, haction, rfl⟩ | ⟨path, hpath, rfl⟩ | ⟨g, path, hpath, action, haction, rfl⟩)
    · refine ⟨_, ⟨_, Or.inl rfl, rfl⟩, Statement.mem_grants.mpr ⟨haction, ?_, ?_⟩⟩
      · exact List.mem_singleton.mpr rfl
      · exact List.mem_singleton.mpr rfl
    · have hreads : s.contains .read = true ∨ s.contains .readWrite = true :=
        (Specification.mem_listablePaths.mp hpath).imp Specification.contains_of_mem_paths
          Specification.contains_of_mem_paths
      refine ⟨_, ⟨_, Or.inr (Or.inl ⟨rfl, hreads⟩), rfl⟩, Statement.mem_grants.mpr ⟨?_, ?_, ?_⟩⟩
      · exact List.mem_singleton.mpr rfl
      · exact List.mem_singleton.mpr rfl
      · exact List.mem_map_of_mem hpath
    · have hpresent : s.contains g = true := Specification.contains_of_mem_paths hpath
      refine ⟨_, ⟨_, Or.inr (Or.inr ⟨g, hpresent, rfl⟩), rfl⟩,
        Statement.mem_grants.mpr ⟨?_, ?_, ?_⟩⟩
      · exact (congrArg (action ∈ ·) g.objectActions_eq).mpr haction
      · exact List.mem_map_of_mem hpath
      · exact List.mem_singleton.mpr rfl

/-! ## Larger specifications -/

/-- Whether every group of a specification is in another one, with all its paths. -/
structure Specification.Within (s t : Specification) : Prop where
  groups : ∀ g, s.contains g = true → t.contains g = true
  paths : ∀ g, ∀ path ∈ s.paths g, path ∈ t.paths g

/-- More groups call for no fewer actions on the bucket. -/
theorem mem_bucketActions_of_imp {present more : Group → Bool}
    (h : ∀ g, present g = true → more g = true) {action : Action}
    (haction : action ∈ bucketActions present) : action ∈ bucketActions more := by
  rw [mem_bucketActions] at haction ⊢
  rcases haction with rfl | ⟨rfl, hwrite, hreads⟩ | ⟨rfl, hwrites⟩
  · exact Or.inl rfl
  · exact Or.inr (Or.inl ⟨rfl, h _ hwrite, hreads.imp (h _) (h _)⟩)
  · exact Or.inr (Or.inr ⟨rfl, hwrites.imp (h _) (h _)⟩)

/-- A larger specification grants no less. -/
theorem grants_subset {e : Document} (h : s.Within t) (hd : compile? s bucket = some d)
    (he : compile? t bucket = some e) : d.grants ⊆ e.grants := by
  intro grant hgrant
  rw [mem_grants_iff he]
  rcases (mem_grants_iff hd).mp hgrant with
    ⟨action, haction, rfl⟩ | ⟨path, hpath, rfl⟩ | ⟨g, path, hpath, action, haction, rfl⟩
  · exact Or.inl ⟨action, mem_bucketActions_of_imp h.groups haction, rfl⟩
  · have hmore : path ∈ t.listablePaths :=
      Specification.mem_listablePaths.mpr
        ((Specification.mem_listablePaths.mp hpath).imp (h.paths _ _) (h.paths _ _))
    exact Or.inr (Or.inl ⟨path, hmore, rfl⟩)
  · exact Or.inr (Or.inr ⟨g, path, h.paths g path hpath, action, haction, rfl⟩)

/-! ## Specifications that make a policy -/

/-- Without other names, a specification that is not empty has a group. -/
theorem Specification.exists_contains (hnames : s.unrecognized = []) (hfull : s.isEmpty = false) :
    ∃ g, s.contains g = true := by
  cases hentries : s.entries.entries with
  | nil =>
      rw [isEmpty, Directory.isEmpty, hentries] at hfull
      cases hfull
  | cons entry rest =>
      have hentry : entry ∈ s.entries.entries := hentries ▸ List.mem_cons_self ..
      have hname : entry.1 ∉ s.unrecognized := hnames ▸ List.not_mem_nil
      rw [mem_unrecognized, not_and, not_forall] at hname
      obtain ⟨g, hg⟩ := hname (List.mem_map_of_mem hentry)
      have hget : s.entries.get? entry.1 = some entry.2 :=
        s.entries.get?_eq_some_iff.mpr hentry
      refine ⟨g, ?_⟩
      rw [contains, Directory.contains, not_not.mp hg, hget]
      rfl

/-- Without other names, a specification with a group makes a policy. -/
theorem Specification.exists_compile? (hnames : s.unrecognized = []) {g : Group}
    (hg : s.contains g = true) (bucket : String) : ∃ d, compile? s bucket = some d := by
  cases hcompile : compile? s bucket with
  | some d => exact ⟨d, rfl⟩
  | none =>
      have hnone : s.combination? = none := Option.map_eq_none_iff.mp hcompile
      rcases s.combination?_eq_none_iff.mp hnone with hempty | ⟨name, hname, hother⟩
      · rw [hempty g] at hg
        cases hg
      · have hmem : name ∈ s.unrecognized := s.mem_unrecognized.mpr ⟨hname, hother⟩
        rw [hnames] at hmem
        cases hmem

/-! ## Permissions that are added -/

/-- **Adding permissions never revokes any.**  Take two specifications without other names, the
first of them not empty and with all its groups and paths in the second.  Both make a policy for
every bucket, and all that the first policy grants is granted by the second. -/
theorem exists_grants_subset (bucket : String) (hs : s.unrecognized = [])
    (ht : t.unrecognized = []) (hfull : s.isEmpty = false) (h : s.Within t) :
    ∃ d e, compile? s bucket = some d ∧ compile? t bucket = some e ∧
      ∀ grant ∈ d.grants, grant ∈ e.grants := by
  obtain ⟨g, hg⟩ := Specification.exists_contains hs hfull
  obtain ⟨d, hd⟩ := Specification.exists_compile? hs hg bucket
  obtain ⟨e, he⟩ := Specification.exists_compile? ht (h.groups g hg) bucket
  exact ⟨d, e, hd, he, fun _ hgrant => grants_subset h hd he hgrant⟩

/-- A path that may be read. -/
def oneReadable : Specification := Specification.empty.insert .read ["r"]

/-- The theorem at that path and a specification with all groups, whose row of the table has other
actions on the bucket. -/
theorem exists_grants_subset_allGroups :
    ∃ d e, compile? oneReadable "b1" = some d ∧ compile? allGroups "b1" = some e ∧
      (⟨.listBucket, "arn:aws:s3:::b1", some "r"⟩ : Grant) ∈ d.grants ∧
      (⟨.listBucket, "arn:aws:s3:::b1", some "r"⟩ : Grant) ∈ e.grants := by
  have hwithin : oneReadable.Within allGroups := by
    constructor
    · intro g hg
      cases g <;> revert hg <;> decide
    · intro g path hpath
      cases g with
      | read =>
          obtain rfl : path = "r" := List.mem_singleton.mp hpath
          decide
      | readWrite => cases hpath
      | write => cases hpath
  obtain ⟨d, e, hd, he, hsubset⟩ :=
    exists_grants_subset "b1" (by decide) (by decide) (by decide) hwithin
  have hlist : (⟨.listBucket, "arn:aws:s3:::b1", some "r"⟩ : Grant) ∈ d.grants := by
    cases hd
    decide
  exact ⟨d, e, hd, he, hlist, hsubset _ hlist⟩

end ObjectAccess.Policy
