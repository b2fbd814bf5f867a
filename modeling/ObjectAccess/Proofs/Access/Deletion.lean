import ObjectAccess.Proofs.Access.Atomicity
import ObjectAccess.Proofs.Store.Footprint

/-!
# Deleting objects together and one by one

A client deletes several objects with one request, and with none at all if there are no keys.  It
could as well delete them one after the other and stop at the first failure: it is told the same,
and the same service is left (`start_deleteMany_eq_each`).  Only the bucket can be missing, so the
first deletion fails or none does, and without keys neither way finds out whether there is a
bucket.

What is left in the bucket is decided by the set of the keys, so neither their order nor how often
a key is given makes a difference, nor does it to delete them a second time.
-/

namespace ObjectAccess

set_option autoImplicit false

/-! ## Buckets -/

namespace Bucket

/-- What is left of a bucket is decided by the set of the keys that are deleted. -/
theorem deleteMany_congr (b : Bucket) {keys others : List String}
    (h : ∀ key, key ∈ others ↔ key ∈ keys) : b.deleteMany others = b.deleteMany keys := by
  apply eq_of_head
  · rw [head_deleteMany, head_deleteMany]
  · intro key
    rw [get?_deleteMany, get?_deleteMany, if_congr (h key) rfl rfl]

theorem deleteMany_deleteMany (b : Bucket) (keys : List String) :
    (b.deleteMany keys).deleteMany keys = b.deleteMany keys := by
  have hboth : (b.deleteMany keys).deleteMany keys = b.deleteMany (keys ++ keys) :=
    List.foldl_append.symm
  rw [hboth]
  apply deleteMany_congr
  intro key
  rw [List.mem_append, or_self]

end Bucket

/-! ## Services -/

/-- Whether a service differs from another one only in that keys of a bucket are gone. -/
structure Service.Deleted (before : Service Store) (name : String) (keys : List String)
    (after : Service Store) : Prop where
  /-- No key is left. -/
  gone : ∀ key ∈ keys, after.backend.object? ⟨name, key⟩ = none
  /-- Every other object has the body, the tag and the date that it had. -/
  kept : ∀ place : ObjectLocation, ¬(place.bucket = name ∧ place.key ∈ keys) →
    after.backend.object? place = before.backend.object? place
  /-- The same buckets exist, with the policies that they had. -/
  heads : ∀ other, after.backend.head? other = before.backend.head? other
  config : after.backend.config = before.backend.config
  registry : after.registry = before.registry

namespace Service

variable {s : Service Store} {name : String} {b : Bucket}

/-- The service with a bucket in its store. -/
def withBucket (s : Service Store) (name : String) (b : Bucket) : Service Store :=
  { s with backend := s.backend.withBucket name b }

/-- Writing a bucket of a store back changes nothing. -/
theorem withBucket_of_get? (h : s.backend.buckets.get? name = some b) : s.withBucket name b = s :=
  congrArg (Service.mk s.registry) (Store.withBucket_of_get? h)

theorem withBucket_withBucket (s : Service Store) (name : String) (first second : Bucket) :
    (s.withBucket name first).withBucket name second = s.withBucket name second :=
  congrArg (Service.mk s.registry) (Store.withBucket_withBucket ..)

theorem get?_withBucket (s : Service Store) (name : String) (b : Bucket) :
    (s.withBucket name b).backend.buckets.get? name = some b := Store.get?_withBucket ..

theorem deleted_withBucket (h : s.backend.buckets.get? name = some b) (keys : List String) :
    s.Deleted name keys (s.withBucket name (b.deleteMany keys)) where
  gone key hkey := by
    rw [withBucket, Store.object?_withBucket, if_pos rfl, Bucket.get?_deleteMany, if_pos hkey]
  kept place hplace := by
    apply Store.object?_withBucket_of_get?
    rintro rfl
    have hkey : place.key ∉ keys := fun hmem => hplace ⟨rfl, hmem⟩
    rw [Bucket.get?_deleteMany, if_neg hkey, Store.object?_of_get? h]
  heads other := Store.head?_withBucket_of_get? h (Bucket.head_deleteMany keys b) other
  config := rfl
  registry := rfl

/-- In a bucket that does not exist there is nothing to delete. -/
theorem deleted_of_absent (h : s.backend.buckets.get? name = none) (keys : List String) :
    s.Deleted name keys s where
  gone key _ := by rw [Store.object?, h, Option.bind_none]
  kept _ _ := rfl
  heads _ := rfl
  config := rfl
  registry := rfl

end Service

/-! ## Clients -/

namespace Client

/-- Deletes objects one after the other, up to the first failure. -/
def deleteEach {σ : Type} [Backend σ] (c : Client) (bucket : Option String)
    (paths : List String) : Task (Service σ) Unit :=
  forM paths fun path => c.delete bucket path

/-- A request that changes one bucket. -/
theorem start_changeBucket (name : String) (f : Bucket → Bucket) (s : Service Store) :
    (Service.onBackend (Task.update fun t : Store => do
        let b ← t.bucket name
        .ok (t.withBucket name (f b)))).start s =
      match s.backend.bucket name with
      | .ok b => (.ok (), s.withBucket name (f b))
      | .error fault => (.error fault, s) := by
  rw [Task.start_onBackend_update]
  cases s.backend.bucket name with
  | ok b => rfl
  | error fault => rfl

variable {c : Client} {bucket : Option String} {name : String} {s : Service Store} {b : Bucket}

section Exists

theorem start_delete_of_exists (hname : c.bucket bucket = .ok name)
    (h : s.backend.buckets.get? name = some b) (path : String) :
    (c.delete bucket path).start s = (.ok (), s.withBucket name (b.delete path)) := by
  rw [delete, start_chosen_bind c hname]
  refine (start_changeBucket name (·.delete path) s).trans ?_
  rw [Store.bucket_eq_ok_iff.mpr h]

theorem start_deleteMany_of_exists (hname : c.bucket bucket = .ok name)
    (h : s.backend.buckets.get? name = some b) (paths : List String) :
    (c.deleteMany bucket paths).start s = (.ok (), s.withBucket name (b.deleteMany paths)) := by
  rw [deleteMany, start_chosen_bind c hname]
  cases paths with
  | nil =>
      rw [show b.deleteMany [] = b from rfl, Service.withBucket_of_get? h]
      rfl
  | cons path rest =>
      refine (start_changeBucket name (·.deleteMany (path :: rest)) s).trans ?_
      rw [Store.bucket_eq_ok_iff.mpr h]

/-- Each deletion finds the bucket as the one before it has left it. -/
theorem start_deleteEach_of_exists (hname : c.bucket bucket = .ok name)
    (h : s.backend.buckets.get? name = some b) (paths : List String) :
    (c.deleteEach bucket paths).start s = (.ok (), s.withBucket name (b.deleteMany paths)) := by
  induction paths generalizing s b with
  | nil =>
      rw [show b.deleteMany [] = b from rfl, Service.withBucket_of_get? h]
      rfl
  | cons path rest ih =>
      have hrest := ih (s.get?_withBucket name (b.delete path))
      rw [Service.withBucket_withBucket] at hrest
      rw [deleteEach, List.forM_cons,
        Task.start_bind_of_ok (start_delete_of_exists hname h path)]
      exact hrest

end Exists

section Absent

/-- What deleting in a bucket that does not exist comes to: without keys nobody looks for it. -/
def absentOutcome (name : String) (paths : List String) : Except Fault Unit :=
  if paths = [] then .ok () else .error (.noSuchBucket name)

theorem start_deleteMany_of_absent (hname : c.bucket bucket = .ok name)
    (h : s.backend.buckets.get? name = none) (paths : List String) :
    (c.deleteMany bucket paths).start s = (absentOutcome name paths, s) := by
  rw [deleteMany, start_chosen_bind c hname]
  cases paths with
  | nil => rfl
  | cons path rest =>
      refine (start_changeBucket name (·.deleteMany (path :: rest)) s).trans ?_
      rw [Store.bucket, h]
      rfl

theorem start_deleteEach_of_absent (hname : c.bucket bucket = .ok name)
    (h : s.backend.buckets.get? name = none) (paths : List String) :
    (c.deleteEach bucket paths).start s = (absentOutcome name paths, s) := by
  cases paths with
  | nil => rfl
  | cons path rest =>
      have hfirst : (c.delete bucket path).start s = (.error (.noSuchBucket name), s) := by
        rw [delete, start_chosen_bind c hname]
        refine (start_changeBucket name (·.delete path) s).trans ?_
        rw [Store.bucket, h]
      exact Task.start_bind_of_error hfirst _

end Absent

/-- **Deleting objects together is deleting them one by one.**  In every service, whether or not the
bucket of a client exists, both ways give the same answer and leave the same service.  Both are
the same for all lists of the same keys, and after a second time.  Afterwards the keys are gone
and nothing else has changed; the answer is a fault just if there are keys but no bucket. -/
theorem start_deleteMany_eq_each (hname : c.bucket bucket = .ok name) (keys : List String)
    (s : Service Store) :
    let after := ((c.deleteMany bucket keys).start s).2
    (c.deleteMany bucket keys).start s = (c.deleteEach bucket keys).start s ∧
    (∀ others : List String, (∀ key, key ∈ others ↔ key ∈ keys) →
      (c.deleteMany bucket others).start s = (c.deleteMany bucket keys).start s) ∧
    s.Deleted name keys after ∧
    (c.deleteMany bucket keys).start after = (c.deleteMany bucket keys).start s ∧
    ((c.deleteMany bucket keys).start s).1 =
      if keys = [] ∨ s.backend.bucketExists name then .ok () else .error (.noSuchBucket name) := by
  intro after
  cases hbucket : s.backend.buckets.get? name with
  | some b =>
      have hexists : s.backend.bucketExists name = true := Store.bucketExists_iff.mpr ⟨b, hbucket⟩
      have hrun := start_deleteMany_of_exists hname hbucket
      have hafter : after = s.withBucket name (b.deleteMany keys) := congrArg Prod.snd (hrun keys)
      refine ⟨?_, ?_, ?_, ?_, ?_⟩
      · rw [hrun, start_deleteEach_of_exists hname hbucket]
      · intro others hothers
        rw [hrun, hrun, b.deleteMany_congr hothers]
      · rw [hafter]
        exact Service.deleted_withBucket hbucket keys
      · have hleft : after.backend.buckets.get? name = some (b.deleteMany keys) := by
          rw [hafter]
          exact s.get?_withBucket name _
        rw [start_deleteMany_of_exists hname hleft, b.deleteMany_deleteMany,
          Service.withBucket_of_get? hleft, hrun, hafter]
      · rw [hrun, if_pos (Or.inr hexists)]
  | none =>
      have habsent : ¬s.backend.bucketExists name = true := by
        rw [Store.bucketExists_eq_false_iff.mpr hbucket]
        exact Bool.false_ne_true
      have hrun := start_deleteMany_of_absent hname hbucket
      have hafter : after = s := congrArg Prod.snd (hrun keys)
      refine ⟨?_, ?_, ?_, ?_, ?_⟩
      · rw [hrun, start_deleteEach_of_absent hname hbucket]
      · intro others hothers
        have hempty : others = [] ↔ keys = [] := by
          simp only [List.eq_nil_iff_forall_not_mem, hothers]
        rw [hrun, hrun, absentOutcome, absentOutcome, if_congr hempty rfl rfl]
      · rw [hafter]
        exact Service.deleted_of_absent hbucket keys
      · rw [hafter]
      · rw [hrun, absentOutcome, if_congr (or_iff_left habsent) rfl rfl]

/-- The theorem at a list with a key twice and a key that is not there, in the default bucket. -/
theorem start_deleteMany_repeated :
    let c : Client := ⟨"main", .standard⟩
    let after := ((c.deleteMany none ["a", "b", "a"]).start oneObject).2
    c.bucket none = .ok "main" ∧ oneObject.backend.object? ⟨"main", "a"⟩ ≠ none ∧
    (c.deleteMany none ["a", "b", "a"]).start oneObject =
      (c.deleteEach none ["a", "b", "a"]).start oneObject ∧
    (c.deleteMany none ["b", "a"]).start oneObject =
      (c.deleteMany none ["a", "b", "a"]).start oneObject ∧
    oneObject.Deleted "main" ["a", "b", "a"] after ∧
    ((c.deleteMany none ["a", "b", "a"]).start oneObject).1 = .ok () := by
  intro c after
  have hname : c.bucket none = .ok "main" := rfl
  obtain ⟨heach, hcongr, hdeleted, -, hanswer⟩ :=
    start_deleteMany_eq_each hname ["a", "b", "a"] oneObject
  refine ⟨hname, ?_, heach, hcongr ["b", "a"] (by simp [or_comm]), hdeleted, hanswer⟩
  intro hnone
  cases hnone

end Client

end ObjectAccess
