import ObjectAccess.Proofs.Store.Heads
import ObjectAccess.Proofs.Store.Pages

/-!
# The life of a bucket

Which buckets exist, since when, with which policies and with which objects are registers of the
store: an operation sets them, another is the end of what was set.  A run therefore leaves in them
what it set last (`Register.value_runAll`).

A new bucket is empty and without a policy.  What is read from a bucket was therefore put there
after it was created, even if there was an earlier bucket of its name (`lifecycle_runAll`).  A
reset is the end of every bucket at once, and of a bucket that exists no end can have come after
the last thing that was done to it; so its policy is the one that was attached last since its
creation, whatever became of earlier buckets (`inForce_iff_of_stands`).
-/

namespace ObjectAccess

set_option autoImplicit false

open ObjectAccess.Time ObjectAccess.Naming ObjectAccess.Text

/-- A directory is empty exactly if no name has a value. -/
theorem Directory.isEmpty_iff {α : Type} {d : Directory α} :
    d.isEmpty = true ↔ ∀ name, d.get? name = none := by
  refine ⟨Directory.get?_of_isEmpty, fun h => ?_⟩
  cases hentries : d.entries with
  | nil => rw [Directory.isEmpty, hentries, List.isEmpty_nil]
  | cons e rest =>
      have he : d.get? e.1 = some e.2 :=
        d.get?_eq_some_iff.mpr (hentries ▸ List.mem_cons_self ..)
      rw [h] at he
      cases he

theorem Directory.isEmpty_eq_false_iff {α : Type} {d : Directory α} :
    d.isEmpty = false ↔ ∃ name value, d.get? name = some value := by
  rw [← Bool.not_eq_true, Directory.isEmpty_iff, not_forall]
  exact exists_congr fun name => Option.ne_none_iff_exists'

/-- Faults of different kinds differ. -/
theorem Fault.ne_of_kind {a b : Fault} (h : a.kind ≠ b.kind) : a ≠ b := ne_of_apply_ne Fault.kind h

theorem Fault.noSuchBucket_ne_bucketNotEmpty (name : String) :
    noSuchBucket name ≠ bucketNotEmpty name :=
  ne_of_kind (show FaultKind.noSuchBucket ≠ .bucketNotEmpty by decide)

theorem Fault.noSuchBucket_ne_noSuchBucketPolicy (name : String) :
    noSuchBucket name ≠ noSuchBucketPolicy name :=
  ne_of_kind (show FaultKind.noSuchBucket ≠ .noSuchBucketPolicy by decide)

namespace Store

/-! ## The registers of a bucket -/

/-- The register of when the bucket of a name was created. -/
def creationRegister (name : String) : Register Instant where
  value s := s.createdAt? name
  Sets s op since := s.Creates op name since
  Ends s op := s.EndsBucket op name
  value_of_sets h := by
    rw [createdAt?, (head?_run_of_creates h).2]
    rfl
  value_of_ends h _ := by
    rw [createdAt?, head?_run_of_endsBucket h]
    rfl
  value_of_not {s op} hends hcreates := by
    by_cases hhead : s.TouchesHead op name
    · rcases hhead with (⟨text, h⟩ | h | ⟨now, h⟩) | h
      · obtain ⟨head, hbefore, hafter⟩ := head?_run_of_attaches h
        rw [createdAt?, createdAt?, hbefore, hafter]
        rfl
      · obtain ⟨head, hbefore, hafter⟩ := head?_run_of_detaches h
        rw [createdAt?, createdAt?, hbefore, hafter]
        rfl
      · exact absurd h (hcreates now)
      · exact absurd h hends
    · rw [createdAt?, createdAt?, head?_run_of_not_touchesHead hhead]
  none_of_sets h _ := by
    rw [createdAt?, (head?_run_of_creates h).1]
    rfl

/-- The register of the policy of a bucket. -/
def policyRegister (name : String) : Register String where
  value s := s.policy? name
  Sets s op text := s.Attaches op name text
  Ends s op := s.TouchesHead op name
  value_of_sets h := by
    obtain ⟨head, -, hafter⟩ := head?_run_of_attaches h
    rw [policy?, hafter]
    rfl
  value_of_ends hhead hattaches := by
    rcases hhead with (⟨text, h⟩ | h | ⟨now, h⟩) | h
    · exact absurd h (hattaches text)
    · obtain ⟨head, -, hafter⟩ := head?_run_of_detaches h
      rw [policy?, hafter]
      rfl
    · rw [policy?, (head?_run_of_creates h).2]
      rfl
    · rw [policy?, head?_run_of_endsBucket h]
      rfl
  value_of_not hhead _ := by
    rw [policy?, policy?, head?_run_of_not_touchesHead hhead]
  none_of_sets h hhead := absurd (Or.inl (Or.inl ⟨_, h⟩)) hhead

theorem object?_run_of_creates {s : Store} {op : Operation} {place : ObjectLocation}
    {now : Instant} (h : s.Creates op place.bucket now) : (s.run op).2.object? place = none := by
  generalize hname : place.bucket = name at h
  cases h with
  | createBucket hsucceeds =>
      have hchange := change_of_succeeds hsucceeds
      generalize (s.run _).2 = after at hchange ⊢
      cases hchange with
      | createBucket _ _ _ =>
          rw [object?_withBucket, if_pos hname]
          rfl
      | read hreads => cases hreads

/-- The register of the object at a location, which loses its value when the bucket is created
again. -/
def contentRegister (place : ObjectLocation) : Register StoredObject where
  value s := s.object? place
  Sets s op o := s.Writes op place o
  Ends s op := s.Touches op place ∨ ∃ now, s.Creates op place.bucket now
  value_of_sets := object?_run_of_writes
  value_of_ends hends hwrites := by
    rcases hends with (⟨o, h⟩ | h) | ⟨now, h⟩
    · exact absurd h (hwrites o)
    · exact object?_run_of_removes h
    · exact object?_run_of_creates h
  value_of_not hends _ := object?_run_of_not_touches fun h => hends (Or.inl h)
  none_of_sets h hends := absurd (Or.inl (Or.inl ⟨_, h⟩)) hends

/-! ## Runs -/

/-- A bucket stands since an instant: it was created then, and there was no end of it later. -/
def Stands (s : Store) (ops : List Operation) (name : String) (since : Instant) : Prop :=
  s.HappensLast ops (fun t op => t.Creates op name since) fun t op => t.EndsBucket op name

/-- A policy is in force: it was attached, and later there was no other one attached, none
detached, and the bucket was not created again. -/
def InForce (s : Store) (ops : List Operation) (name text : String) : Prop :=
  s.HappensLast ops (fun t op => t.Attaches op name text) fun t op => t.TouchesPolicy op name

/-- An object is what the last write put at a location since its bucket was created. -/
def WrittenSince (s : Store) (ops : List Operation) (place : ObjectLocation)
    (o : StoredObject) : Prop :=
  s.HappensLast ops (fun t op => t.Writes op place o) fun t op =>
    t.Touches op place ∨ ∃ now, t.Creates op place.bucket now

variable {s : Store} {ops : List Operation} {op : Operation}

/-- Where a bucket stands, its end cannot have come after its policy was attached. -/
theorem inForce_iff_of_stands {name text : String} {since : Instant}
    (hstands : s.Stands ops name since) :
    s.InForce ops name text ↔ s.HappensLast ops (fun t op => t.Attaches op name text)
      fun t op => t.TouchesHead op name := by
  obtain ⟨k, hcreates, hends⟩ := hstands
  constructor
  · rintro ⟨i, hattaches, hlater⟩
    refine ⟨i, hattaches, fun j hj hhappens => ?_⟩
    obtain ⟨op, hop, htouches | hend⟩ := hhappens
    · exact hlater j hj ⟨op, hop, htouches⟩
    · -- The bucket was not created after the policy was attached, so an end after that would have
      -- come after the creation too, and the bucket would not stand.
      have hk : ¬i < k := by
        intro hik
        obtain ⟨creation, hcreation, h⟩ := hcreates
        exact hlater k hik ⟨creation, hcreation, Or.inr (Or.inr ⟨since, h⟩)⟩
      exact hends j (by omega) ⟨op, hop, hend⟩
  · rintro ⟨i, hattaches, hlater⟩
    refine ⟨i, hattaches, fun j hj hhappens => ?_⟩
    obtain ⟨op, hop, htouches⟩ := hhappens
    exact hlater j hj ⟨op, hop, Or.inl htouches⟩

/-! ## Answers -/

theorem succeeds_createBucket_iff {now : Instant} {name : String} :
    s.Succeeds (.createBucket now name) ↔
      checkBucketName name = .ok () ∧ s.bucketExists name = false := by
  constructor
  · intro h
    have hchange := change_of_succeeds h
    generalize (s.run _).2 = after at hchange
    cases hchange with
    | createBucket _ hname habsent => exact ⟨hname, bucketExists_eq_false_iff.mpr habsent⟩
    | read hreads => cases hreads
  · rintro ⟨hname, habsent⟩
    refine ⟨.done, ?_⟩
    simp only [run, perform, createBucket, hname, habsent]
    rfl

theorem mem_listBuckets {x : BucketSummary} :
    x ∈ s.listBuckets ↔ s.createdAt? x.name = some x.createdAt := by
  obtain ⟨name, since⟩ := x
  simp only [listBuckets, List.mem_map, createdAt?, head?, Option.map_map, Option.map_eq_some_iff,
    Directory.get?_eq_some_iff]
  constructor
  · rintro ⟨⟨other, b⟩, hmem, heq⟩
    cases heq
    exact ⟨b, hmem, rfl⟩
  · rintro ⟨b, hmem, rfl⟩
    exact ⟨(name, b), hmem, rfl⟩

theorem pairwise_listBuckets (s : Store) :
    s.listBuckets.Pairwise fun x y => octets x.name.toList < octets y.name.toList :=
  List.pairwise_map.mpr <| s.buckets.ascending.imp fun h =>
    octets_lt_octets (String.lt_iff_toList_lt.mp h)

theorem exists_object?_of_list {request : ListRequest} {page : ObjectPage} {x : ObjectSummary}
    (hpage : s.list request = .ok page) (hx : x ∈ page.objects) :
    ∃ o, s.object? ⟨request.bucket, x.key⟩ = some o ∧ x = o.summary x.key := by
  obtain ⟨b, hb, heq⟩ := bind_eq_ok_iff.mp hpage
  cases heq
  obtain ⟨o, hget, -, hsummary⟩ := (b.mem_matching request).mp (List.mem_of_mem_take hx)
  exact ⟨o, (object?_of_get? (bucket_eq_ok_iff.mp hb)).trans hget, hsummary⟩

/-! ## The life of a bucket -/

/-- What a run makes of the bucket of a name. -/
structure Lifecycle (s : Store) (ops : List Operation) (name : String) : Prop where
  /-- The bucket exists just if it has been created and there was no end of it later. -/
  exists_iff : (s.runAll ops).bucketExists name = true ↔ ∃ since, s.Stands ops name since
  create_iff : ∀ now, (s.runAll ops).Succeeds (.createBucket now name) ↔
    checkBucketName name = .ok () ∧ (s.runAll ops).bucketExists name = false
  delete_iff : (s.runAll ops).Succeeds (.deleteBucket name) ↔
    (s.runAll ops).bucketExists name = true ∧
      ∀ key, (s.runAll ops).object? ⟨name, key⟩ = none
  delete_notEmpty_iff :
    ((s.runAll ops).run (.deleteBucket name)).1 = .error (.bucketNotEmpty name) ↔
      ∃ key o, (s.runAll ops).object? ⟨name, key⟩ = some o
  delete_absent_iff :
    ((s.runAll ops).run (.deleteBucket name)).1 = .error (.noSuchBucket name) ↔
      (s.runAll ops).bucketExists name = false
  policy_iff : ∀ text, (s.runAll ops).policy name = .ok text ↔
    (s.runAll ops).bucketExists name = true ∧ s.InForce ops name text
  policy_none_iff : (s.runAll ops).policy name = .error (.noSuchBucketPolicy name) ↔
    (s.runAll ops).bucketExists name = true ∧ ¬∃ text, s.InForce ops name text
  policy_absent_iff : (s.runAll ops).policy name = .error (.noSuchBucket name) ↔
    (s.runAll ops).bucketExists name = false
  /-- What the bucket holds was written since it was created. -/
  object_iff : ∀ key o, (s.runAll ops).object? ⟨name, key⟩ = some o ↔
    s.WrittenSince ops ⟨name, key⟩ o
  get_iff : ∀ key body, (s.runAll ops).get name key = .ok body ↔
    ∃ o, s.WrittenSince ops ⟨name, key⟩ o ∧ o.body = body
  list_written : ∀ request page, request.bucket = name →
    (s.runAll ops).list request = .ok page →
    ∀ x ∈ page.objects, ∃ o, s.WrittenSince ops ⟨name, x.key⟩ o ∧ x = o.summary x.key

theorem object?_of_none {place : ObjectLocation} (h : s.buckets.get? place.bucket = none) :
    s.object? place = none := by
  rw [object?, h]
  rfl

section Runs

variable {name : String} (hnone : s.buckets.get? name = none)
include hnone

theorem createdAt?_runAll (ops : List Operation) (since : Instant) :
    (s.runAll ops).createdAt? name = some since ↔ s.Stands ops name since :=
  (creationRegister name).value_runAll (by simp [creationRegister, createdAt?, head?, hnone])
    ops since

theorem policy?_runAll (hexists : (s.runAll ops).bucketExists name = true) (text : String) :
    (s.runAll ops).policy? name = some text ↔ s.InForce ops name text := by
  obtain ⟨since, hsince⟩ := bucketExists_iff_createdAt?.mp hexists
  rw [inForce_iff_of_stands ((createdAt?_runAll hnone ops since).mp hsince)]
  exact (policyRegister name).value_runAll (by simp [policyRegister, policy?, head?, hnone])
    ops text

theorem object?_runAll_since (ops : List Operation) (key : String) (o : StoredObject) :
    (s.runAll ops).object? ⟨name, key⟩ = some o ↔ s.WrittenSince ops ⟨name, key⟩ o :=
  (contentRegister ⟨name, key⟩).value_runAll (object?_of_none hnone) ops o

/-- A bucket lives from its creation to its end, if there was none of its name at first. -/
theorem lifecycle (ops : List Operation) : s.Lifecycle ops name where
  exists_iff := by
    rw [bucketExists_iff_createdAt?]
    exact exists_congr (createdAt?_runAll hnone ops)
  create_iff _ := succeeds_createBucket_iff
  delete_iff := by
    rw [Succeeds, answer_deleteBucket, bucketExists_iff]
    cases hbucket : (s.runAll ops).buckets.get? name with
    | none => simp
    | some b =>
        have hobject : ∀ key, (s.runAll ops).object? ⟨name, key⟩ = b.objects.get? key :=
          fun key => object?_of_get? hbucket
        simp only [hobject, ← Directory.isEmpty_iff]
        cases b.objects.isEmpty <;> simp
  delete_notEmpty_iff := by
    rw [answer_deleteBucket]
    cases hbucket : (s.runAll ops).buckets.get? name with
    | none =>
        have hobject : ∀ key, (s.runAll ops).object? ⟨name, key⟩ = none :=
          fun key => object?_of_none hbucket
        simp [hobject, Fault.noSuchBucket_ne_bucketNotEmpty]
    | some b =>
        have hobject : ∀ key, (s.runAll ops).object? ⟨name, key⟩ = b.objects.get? key :=
          fun key => object?_of_get? hbucket
        simp only [hobject, ← Directory.isEmpty_eq_false_iff]
        cases b.objects.isEmpty <;> simp
  delete_absent_iff := by
    rw [answer_deleteBucket, bucketExists_eq_false_iff]
    cases (s.runAll ops).buckets.get? name with
    | none => simp
    | some b =>
        cases hempty : b.objects.isEmpty <;>
          simp [hempty, (Fault.noSuchBucket_ne_bucketNotEmpty name).symm]
  policy_iff text := by
    rw [policy_eq]
    cases hexists : (s.runAll ops).bucketExists name with
    | false => simp
    | true =>
        rw [← policy?_runAll hnone hexists]
        cases (s.runAll ops).policy? name <;> simp
  policy_none_iff := by
    rw [policy_eq]
    cases hexists : (s.runAll ops).bucketExists name with
    | false => simp [Fault.noSuchBucket_ne_noSuchBucketPolicy]
    | true =>
        simp only [← policy?_runAll hnone hexists]
        cases (s.runAll ops).policy? name <;> simp
  policy_absent_iff := by
    rw [policy_eq]
    cases (s.runAll ops).bucketExists name with
    | false => simp
    | true =>
        cases (s.runAll ops).policy? name <;>
          simp [(Fault.noSuchBucket_ne_noSuchBucketPolicy name).symm]
  object_iff := object?_runAll_since hnone ops
  get_iff key body := by
    simp only [get_eq_ok_iff, object?_runAll_since hnone]
  list_written request page hname hpage x hx := by
    subst hname
    simp only [← object?_runAll_since hnone]
    exact exists_object?_of_list hpage hx

end Runs

/-- **The life of a bucket.**  After any run from an empty store, the buckets that a listing names
are those that were created and had no end later, each with the instant of its creation, in the
order of the octets of their names.  A bucket is created just if its name passes the check and it
does not exist, and deleted just if it exists and holds nothing.  The policy of a bucket that
exists is the text that was attached last since it was created, if none was detached since, and
what it holds was written since it was created. -/
theorem lifecycle_runAll (config : Config) (ops : List Operation) :
    (((empty config).runAll ops).listBuckets.Pairwise fun x y =>
      octets x.name.toList < octets y.name.toList) ∧
    (∀ x, x ∈ ((empty config).runAll ops).listBuckets ↔
      (empty config).Stands ops x.name x.createdAt) ∧
    ∀ name, (empty config).Lifecycle ops name := by
  refine ⟨pairwise_listBuckets _, fun x => ?_, fun name => lifecycle rfl ops⟩
  rw [mem_listBuckets]
  exact createdAt?_runAll rfl ops x.createdAt

/-- A bucket that was deleted and created again has lost its policy. -/
example :
    let s := (empty .standard).runAll [.createBucket .epoch "main", .putPolicy "main" "[]",
      .deleteBucket "main", .createBucket .epoch "main"]
    s.bucketExists "main" = true ∧ s.policy "main" = .error (.noSuchBucketPolicy "main") :=
  ⟨rfl, rfl⟩

/-- Without a bucket there is no policy in force, but reading one complains of the bucket and not
of the policy. -/
theorem policy_of_no_bucket :
    (¬∃ text, (empty .standard).InForce [] "b1" text) ∧
    ((empty .standard).runAll []).policy "b1" = .error (.noSuchBucket "b1") ∧
    Fault.noSuchBucket "b1" ≠ .noSuchBucketPolicy "b1" := by
  refine ⟨?_, rfl, Fault.noSuchBucket_ne_noSuchBucketPolicy "b1"⟩
  rintro ⟨text, htext⟩
  exact not_happensLast_nil htext

end Store

end ObjectAccess
