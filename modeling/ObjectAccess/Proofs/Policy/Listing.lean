import Mathlib
import ObjectAccess.Policy.Compiler

/-!
# What a compiled policy lets anyone list

A listing is permitted if some statement permits it, so what counts is the union of the
statements.  The listing statement permits exactly the paths of the groups that read.  The
statement on the bucket itself has no condition, and it permits listing if `write` stands
together with a group that reads: then every prefix may be listed, those that are only
written included (`listing_of_compile?`).  Without such a pair the listable paths are all
that may be listed.
-/

namespace ObjectAccess.Policy

set_option autoImplicit false

/-! ## Groups of a specification -/

/-- The groups of a specification are those that are present. -/
theorem Specification.mem_groups (s : Specification) (g : Group) :
    g ∈ s.groups ↔ s.contains g = true := by
  have hall : g ∈ Group.all := by cases g <;> decide
  simp [groups, hall]

/-- The set of the groups in a list contains just those groups. -/
theorem Combination.contains_of_ofGroups? {groups : List Group} {c : Combination}
    (h : ofGroups? groups = some c) (g : Group) : c.contains g = true ↔ g ∈ groups := by
  by_cases hread : Group.read ∈ groups <;> by_cases hreadWrite : Group.readWrite ∈ groups <;>
    by_cases hwrite : Group.write ∈ groups <;>
    simp only [ofGroups?, hread, hreadWrite, hwrite, decide_true, decide_false,
      Option.some.injEq, reduceCtorEq] at h <;>
    subst h <;> cases g <;> simp [contains, hread, hreadWrite, hwrite]

/-- The combination of a specification contains the groups that are present. -/
theorem Specification.contains_combination {s : Specification} {c : Combination}
    (h : s.combination? = some c) (g : Group) : c.contains g = s.contains g := by
  unfold combination? at h
  split at h
  · exact Bool.eq_iff_iff.mpr ((Combination.contains_of_ofGroups? h g).trans (s.mem_groups g))
  · cases h

/-- A group with paths is present. -/
theorem Specification.contains_of_mem_paths {s : Specification} {g : Group} {path : String}
    (h : path ∈ s.paths g) : s.contains g = true := by
  unfold paths at h
  cases hget : s.entries.get? g.name with
  | none => simp [hget] at h
  | some paths => simp [contains, Directory.contains, hget]

/-! ## Permission to list -/

/-- Whether a statement permits listing a bucket under a path: it names the action and the
bucket, and its condition, if there is one, names the path. -/
def Statement.permitsListing (st : Statement) (bucket path : String) : Prop :=
  Action.listBucket ∈ st.actions ∧ bucketResource bucket ∈ st.resources ∧
    ∀ c, st.condition = some c → path ∈ c.prefixes

/-- Whether a policy permits listing a bucket under a path. -/
def Document.permitsListing (d : Document) (bucket path : String) : Prop :=
  ∃ st ∈ d.statements, st.permitsListing bucket path

/-- The paths of the groups that may be listed. -/
def Specification.listablePaths (s : Specification) : List String := listable.flatMap s.paths

theorem Specification.mem_listablePaths {s : Specification} {path : String} :
    path ∈ s.listablePaths ↔ path ∈ s.paths .read ∨ path ∈ s.paths .readWrite := by
  simp [listablePaths, listable]

/-- Whether `write` stands together with a group that reads. -/
def Combination.opensListing (c : Combination) : Bool :=
  c.contains .write && (c.contains .read || c.contains .readWrite)

/-- Whether a specification has `write` together with a group that reads. -/
def Specification.opensListing (s : Specification) : Bool :=
  s.contains .write && (s.contains .read || s.contains .readWrite)

/-! ## Rules -/

/-- Every combination permits something on the bucket itself. -/
theorem exists_onBucket (c : Combination) : ∃ actions, Rule.onBucket actions ∈ rules c := by
  cases c <;> exact ⟨_, List.mem_cons_self ..⟩

/-- Listing is permitted on the bucket itself just if `write` stands together with a group that
reads. -/
theorem listBucket_mem_onBucket {c : Combination} {actions : List Action}
    (h : Rule.onBucket actions ∈ rules c) :
    Action.listBucket ∈ actions ↔ c.opensListing = true := by
  cases c <;> simp only [rules, List.mem_cons, Rule.onBucket.injEq, reduceCtorEq, or_false,
    List.not_mem_nil] at h <;> subst h <;> decide

/-- There is a listing rule just if there is a group that reads. -/
theorem listing_mem_rules (c : Combination) :
    Rule.listing ∈ rules c ↔ c.contains .read = true ∨ c.contains .readWrite = true := by
  cases c <;> decide

/-- No group permits listing on its objects. -/
theorem listBucket_not_mem_objectActions (g : Group) : Action.listBucket ∉ objectActions g := by
  cases g <;> decide

/-- The statements of a policy come from the rules of its combination. -/
theorem exists_rules_of_compile? {s : Specification} {bucket : String} {d : Document}
    (h : compile? s bucket = some d) :
    ∃ c, s.combination? = some c ∧ d.statements = (rules c).map (Rule.statement s bucket) := by
  obtain ⟨c, hc, rfl⟩ := Option.map_eq_some_iff.mp h
  exact ⟨c, hc, rfl⟩

theorem opensListing_combination {s : Specification} {c : Combination}
    (h : s.combination? = some c) : c.opensListing = s.opensListing := by
  simp only [Combination.opensListing, Specification.opensListing, s.contains_combination h]

/-! ## Statements -/

/-- A statement that lists is either conditioned on the listable paths, or it is the statement on
the bucket of a specification that has `write` together with a group that reads. -/
theorem condition_of_listBucket_mem {s : Specification} {bucket : String} {d : Document}
    (h : compile? s bucket = some d) {st : Statement} (hst : st ∈ d.statements)
    (hlist : Action.listBucket ∈ st.actions) :
    st.condition = some ⟨s.listablePaths⟩ ∨ (st.condition = none ∧ s.opensListing = true) := by
  obtain ⟨c, hc, hstatements⟩ := exists_rules_of_compile? h
  rw [hstatements] at hst
  obtain ⟨rule, hrule, rfl⟩ := List.mem_map.mp hst
  cases rule with
  | onBucket actions =>
      have hopens := (listBucket_mem_onBucket hrule).mp hlist
      exact Or.inr ⟨rfl, opensListing_combination hc ▸ hopens⟩
  | listing => exact Or.inl rfl
  | onObjects g => exact absurd hlist (listBucket_not_mem_objectActions g)

/-- With `write` beside a group that reads, some statement lists the bucket without a
condition. -/
theorem exists_unconditioned {s : Specification} {bucket : String} {d : Document}
    (h : compile? s bucket = some d) (hopens : s.opensListing = true) :
    ∃ st ∈ d.statements, Action.listBucket ∈ st.actions ∧
      st.resources = [bucketResource bucket] ∧ st.condition = none := by
  obtain ⟨c, hc, hstatements⟩ := exists_rules_of_compile? h
  obtain ⟨actions, hrule⟩ := exists_onBucket c
  have hlist : Action.listBucket ∈ actions :=
    (listBucket_mem_onBucket hrule).mpr (opensListing_combination hc ▸ hopens)
  refine ⟨Rule.statement s bucket (.onBucket actions), ?_, hlist, rfl, rfl⟩
  rw [hstatements]
  exact List.mem_map_of_mem hrule

/-- The paths of the groups that read may be listed. -/
theorem permitsListing_of_mem_listablePaths {s : Specification} {bucket path : String}
    {d : Document} (h : compile? s bucket = some d) (hpath : path ∈ s.listablePaths) :
    d.permitsListing bucket path := by
  obtain ⟨c, hc, hstatements⟩ := exists_rules_of_compile? h
  have hreads : c.contains .read = true ∨ c.contains .readWrite = true := by
    rw [s.contains_combination hc, s.contains_combination hc]
    exact (Specification.mem_listablePaths.mp hpath).imp Specification.contains_of_mem_paths
      Specification.contains_of_mem_paths
  refine ⟨Rule.statement s bucket .listing, ?_, List.mem_singleton.mpr rfl,
    List.mem_singleton.mpr rfl, fun condition hcondition => ?_⟩
  · rw [hstatements]
    exact List.mem_map_of_mem ((listing_mem_rules c).mpr hreads)
  · cases hcondition
    exact hpath

/-! ## What may be listed -/

/-- **Listing is confined to the listable paths just if `write` stands alone.**  A statement that
lists is conditioned on the listable paths, except for the statement on the bucket if `write`
stands together with a group that reads: that one has no condition, and every path may be
listed. -/
theorem listing_of_compile? {s : Specification} {bucket : String} {d : Document}
    (h : compile? s bucket = some d) :
    (∀ st ∈ d.statements, Action.listBucket ∈ st.actions →
      st.condition = some ⟨s.listablePaths⟩ ∨
        (st.condition = none ∧ s.opensListing = true)) ∧
    ((∀ st ∈ d.statements, Action.listBucket ∈ st.actions →
      ∃ c, st.condition = some c ∧
        ∀ path ∈ c.prefixes, path ∈ s.paths .read ∨ path ∈ s.paths .readWrite) ↔
      s.opensListing = false) ∧
    ∀ path, d.permitsListing bucket path ↔
      (path ∈ s.paths .read ∨ path ∈ s.paths .readWrite) ∨ s.opensListing = true := by
  refine ⟨fun st hst hlist => condition_of_listBucket_mem h hst hlist, ⟨fun hconfined => ?_,
    fun hclosed st hst hlist => ?_⟩, fun path => ⟨?_, ?_⟩⟩
  · cases hopens : s.opensListing with
    | false => rfl
    | true =>
        obtain ⟨st, hst, hlist, -, hnone⟩ := exists_unconditioned h hopens
        obtain ⟨c, hsome, -⟩ := hconfined st hst hlist
        rw [hnone] at hsome
        cases hsome
  · rcases condition_of_listBucket_mem h hst hlist with hcondition | ⟨-, hopens⟩
    · exact ⟨_, hcondition, fun path => Specification.mem_listablePaths.mp⟩
    · rw [hclosed] at hopens
      cases hopens
  · rintro ⟨st, hst, hlist, -, hpath⟩
    rcases condition_of_listBucket_mem h hst hlist with hcondition | ⟨-, hopens⟩
    · exact Or.inl (Specification.mem_listablePaths.mp (hpath _ hcondition))
    · exact Or.inr hopens
  · rintro (hpath | hopens)
    · exact permitsListing_of_mem_listablePaths h (Specification.mem_listablePaths.mpr hpath)
    · obtain ⟨st, hst, hlist, hresources, hnone⟩ := exists_unconditioned h hopens
      exact ⟨st, hst, hlist, hresources ▸ List.mem_singleton.mpr rfl,
        fun c hsome => by rw [hnone] at hsome; cases hsome⟩

/-- Some objects that may be read and others that may be written. -/
def readsAndWrites : Specification :=
  (Specification.empty.insert .read ["r"]).insert .write ["w"]

/-- The theorem at a specification that opens the listing: `w` is no path of a group that reads,
and may be listed. -/
theorem listing_of_readsAndWrites :
    ∃ d, compile? readsAndWrites "b1" = some d ∧ readsAndWrites.opensListing = true ∧
      "w" ∉ readsAndWrites.paths .read ∧ "w" ∉ readsAndWrites.paths .readWrite ∧
      d.permitsListing "b1" "w" := by
  have hopens : readsAndWrites.opensListing = true := by decide
  exact ⟨_, rfl, hopens, by decide, by decide,
    ((listing_of_compile? rfl).2.2 "w").mpr (Or.inr hopens)⟩

/-- A listing is not confined to the listable paths in every policy. -/
theorem exists_unconfined_listing :
    ¬∀ (s : Specification) (bucket : String) (d : Document), compile? s bucket = some d →
      ∀ st ∈ d.statements, Action.listBucket ∈ st.actions →
        ∃ c, st.condition = some c ∧
          ∀ path ∈ c.prefixes, path ∈ s.paths .read ∨ path ∈ s.paths .readWrite := by
  intro hall
  obtain ⟨c, hcondition, -⟩ := hall readsAndWrites "b1" _ rfl
    (Rule.statement readsAndWrites "b1" (.onBucket locationListUploads))
    (List.mem_cons_self ..) (by decide)
  cases hcondition

end ObjectAccess.Policy
