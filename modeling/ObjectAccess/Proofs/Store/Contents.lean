import ObjectAccess.Proofs.Steps
import ObjectAccess.Store.Operation

/-!
# What an operation does to a store

The contents of a store are its buckets by name and the objects at their locations
(`Store.object?`).  An operation that succeeds changes the store in one of the ways of
`Store.Change`, which says what had to hold before and what the store is afterwards; an
operation that fails changes nothing (`change_run`).  Everything that is proved about runs
goes through these two cases.
-/

namespace ObjectAccess

set_option autoImplicit false

open ObjectAccess.Time ObjectAccess.Naming

/-! ## Objects of a bucket -/

namespace Bucket

theorem get?_put (b : Bucket) (key : String) (o : StoredObject) (other : String) :
    (b.put key o).objects.get? other = if other = key then some o else b.objects.get? other := by
  by_cases h : other = key
  · subst h
    simp [put]
  · simp [put, h, Directory.get?_insert_of_ne _ _ h]

theorem get?_delete (b : Bucket) (key other : String) :
    (b.delete key).objects.get? other = if other = key then none else b.objects.get? other := by
  by_cases h : other = key
  · subst h
    simp [delete]
  · simp [delete, h, Directory.get?_erase_of_ne _ h]

theorem get?_deleteMany (keys : List String) (b : Bucket) (other : String) :
    (b.deleteMany keys).objects.get? other =
      if other ∈ keys then none else b.objects.get? other := by
  induction keys generalizing b with
  | nil => simp [deleteMany]
  | cons key rest ih =>
      have hstep : b.deleteMany (key :: rest) = (b.delete key).deleteMany rest := rfl
      rw [hstep, ih, get?_delete]
      by_cases hrest : other ∈ rest <;> by_cases hkey : other = key <;> simp [hrest, hkey]

end Bucket

/-- A directory without entries has no values. -/
theorem Directory.get?_of_isEmpty {α : Type} {d : Directory α} (h : d.isEmpty = true)
    (name : String) : d.get? name = none := by
  obtain ⟨entries, ascending⟩ := d
  obtain rfl : entries = [] := List.isEmpty_iff.mp h
  rfl

namespace Store

/-! ## Locations -/

/-- The object at a location. -/
def object? (s : Store) (place : ObjectLocation) : Option StoredObject :=
  (s.buckets.get? place.bucket).bind fun b => b.objects.get? place.key

@[simp] theorem object?_empty (config : Config) (place : ObjectLocation) :
    (empty config).object? place = none := rfl

theorem get?_withBucket (s : Store) (name : String) (b : Bucket) :
    (s.withBucket name b).buckets.get? name = some b := Directory.get?_insert_self ..

theorem object?_withBucket (s : Store) (name : String) (b : Bucket) (place : ObjectLocation) :
    (s.withBucket name b).object? place =
      if place.bucket = name then b.objects.get? place.key else s.object? place := by
  unfold object? withBucket
  by_cases h : place.bucket = name
  · rw [h, Directory.get?_insert_self, if_pos rfl]
    rfl
  · rw [Directory.get?_insert_of_ne _ _ h, if_neg h]

theorem object?_of_get? {s : Store} {place : ObjectLocation} {b : Bucket}
    (h : s.buckets.get? place.bucket = some b) : s.object? place = b.objects.get? place.key := by
  rw [object?, h]
  rfl

theorem bucket_eq_ok_iff {s : Store} {name : String} {b : Bucket} :
    s.bucket name = .ok b ↔ s.buckets.get? name = some b := by
  unfold bucket
  cases s.buckets.get? name <;> simp

theorem bucketExists_iff {s : Store} {name : String} :
    s.bucketExists name = true ↔ ∃ b, s.buckets.get? name = some b := by
  rw [bucketExists, Directory.contains, Option.isSome_iff_exists]

theorem bucketExists_eq_false_iff {s : Store} {name : String} :
    s.bucketExists name = false ↔ s.buckets.get? name = none := by
  rw [bucketExists, Directory.contains, Option.isSome_eq_false_iff, Option.isNone_iff_eq_none]

theorem object_eq_ok_iff {s : Store} {bucket key : String} {o : StoredObject} :
    s.object bucket key = .ok o ↔ s.object? ⟨bucket, key⟩ = some o := by
  unfold object
  rw [bind_eq_ok_iff]
  constructor
  · rintro ⟨b, hb, h⟩
    rw [object?_of_get? (bucket_eq_ok_iff.mp hb)]
    cases hget : b.objects.get? key with
    | none => simp [hget] at h
    | some found => simpa [hget] using h
  · intro h
    obtain ⟨b, hb, hget⟩ := Option.bind_eq_some_iff.mp h
    exact ⟨b, bucket_eq_ok_iff.mpr hb, by simp [hget]⟩

theorem get_eq_ok_iff {s : Store} {bucket key : String} {body : List UInt8} :
    s.get bucket key = .ok body ↔ ∃ o, s.object? ⟨bucket, key⟩ = some o ∧ o.body = body := by
  simp only [get, map_eq_ok_iff, object_eq_ok_iff]

/-- What reading an object answers, by what is at its location. -/
theorem get_eq (s : Store) (bucket key : String) :
    s.get bucket key =
      if s.bucketExists bucket then
        match s.object? ⟨bucket, key⟩ with
        | some o => .ok o.body
        | none => .error (.noSuchKey key)
      else .error (.noSuchBucket bucket) := by
  unfold get object Store.bucket bucketExists Directory.contains object?
  cases s.buckets.get? bucket with
  | none => rfl
  | some b => cases hget : b.objects.get? key <;> simp [hget, bind, Except.bind, Except.map]

/-- What reading a policy answers. -/
theorem policy_eq_ok_iff {s : Store} {name text : String} :
    s.policy name = .ok text ↔ ∃ b, s.buckets.get? name = some b ∧ b.policy = some text := by
  unfold policy
  rw [bind_eq_ok_iff]
  apply exists_congr
  intro b
  rw [bucket_eq_ok_iff]
  cases b.policy <;> simp

/-- A policy is not read if there is no bucket, or if the bucket has none. -/
theorem kind_of_policy_eq_error {s : Store} {name : String} {fault : Fault}
    (h : s.policy name = .error fault) :
    fault.kind = .noSuchBucket ∨ fault.kind = .noSuchBucketPolicy := by
  unfold policy Store.bucket at h
  cases hbucket : s.buckets.get? name with
  | none =>
      rw [hbucket] at h
      cases h
      exact Or.inl rfl
  | some b =>
      cases hpolicy : b.policy with
      | none =>
          simp only [hbucket, hpolicy, bind, Except.bind, Except.error.injEq] at h
          subst h
          exact Or.inr rfl
      | some text => simp [hbucket, hpolicy, bind, Except.bind] at h

/-! ## Changes -/

/-- Whether an operation never changes a store. -/
def Operation.reads : Operation → Bool
  | .bucketExists _ | .listBuckets | .policy _ | .get _ _ | .list _ | .presign _ _ _
  | .plainUrl _ | .verify _ _ | .describe => true
  | _ => false

/-- What an operation that succeeds makes of a store. -/
inductive Change (s : Store) : Operation → Store → Prop where
  | createBucket (now : Instant) {bucket : String} (hname : checkBucketName bucket = .ok ())
      (habsent : s.buckets.get? bucket = none) :
      Change s (.createBucket now bucket) (s.withBucket bucket (.new now))
  | deleteBucket {bucket : String} {b : Bucket} (hbucket : s.buckets.get? bucket = some b)
      (hempty : b.objects.isEmpty = true) :
      Change s (.deleteBucket bucket) { s with buckets := s.buckets.erase bucket }
  | reset : Change s .reset s.reset
  | putPolicy {bucket text : String} {b : Bucket} {value : Json.Value}
      (hbucket : s.buckets.get? bucket = some b) (hjson : Json.parse text = .ok value) :
      Change s (.putPolicy bucket text) (s.withBucket bucket { b with policy := some text })
  | deletePolicy {bucket : String} {b : Bucket} (hbucket : s.buckets.get? bucket = some b) :
      Change s (.deletePolicy bucket) (s.withBucket bucket { b with policy := none })
  | put (now : Instant) {bucket key : String} (body : List UInt8) {b : Bucket}
      (hkey : checkObjectKey key = .ok ()) (hbucket : s.buckets.get? bucket = some b) :
      Change s (.put now bucket key body) (s.withBucket bucket (b.put key (.ofBody body now)))
  | delete {bucket : String} (key : String) {b : Bucket}
      (hbucket : s.buckets.get? bucket = some b) :
      Change s (.delete bucket key) (s.withBucket bucket (b.delete key))
  | deleteMany {bucket : String} (keys : List String) {b : Bucket}
      (hbucket : s.buckets.get? bucket = some b) :
      Change s (.deleteMany bucket keys) (s.withBucket bucket (b.deleteMany keys))
  | copy (now : Instant) {source target : ObjectLocation} {o : StoredObject} {b : Bucket}
      (hkey : checkObjectKey target.key = .ok ()) (hsource : s.object? source = some o)
      (hbucket : s.buckets.get? target.bucket = some b) :
      Change s (.copy now source target)
        (s.withBucket target.bucket (b.put target.key (.ofBody o.body now)))
  | read {op : Operation} (hreads : op.reads = true) : Change s op s

/-- An operation that comes to an answer has made one of the changes. -/
theorem change_of_perform {s t : Store} {op : Operation} {answer : Answer}
    (h : s.perform op = .ok (answer, t)) : s.Change op t := by
  cases op with
  | createBucket now bucket =>
      obtain ⟨after, hstep, hpair⟩ := map_eq_ok_iff.mp h
      obtain ⟨⟨⟩, hname, hrest⟩ := bind_eq_ok_iff.mp hstep
      cases hpair
      split at hrest
      · cases hrest
      · next habsent =>
          cases hrest
          exact .createBucket now hname (bucketExists_eq_false_iff.mp (by simpa using habsent))
  | deleteBucket bucket =>
      obtain ⟨after, hstep, hpair⟩ := map_eq_ok_iff.mp h
      obtain ⟨b, hb, hrest⟩ := bind_eq_ok_iff.mp hstep
      cases hpair
      split at hrest
      · next hempty =>
          cases hrest
          exact .deleteBucket (bucket_eq_ok_iff.mp hb) hempty
      · cases hrest
  | reset =>
      cases h
      exact .reset
  | putPolicy bucket text =>
      obtain ⟨after, hstep, hpair⟩ := map_eq_ok_iff.mp h
      obtain ⟨b, hb, hrest⟩ := bind_eq_ok_iff.mp hstep
      cases hpair
      split at hrest
      · next value hjson =>
          cases hrest
          exact .putPolicy (bucket_eq_ok_iff.mp hb) hjson
      · cases hrest
  | deletePolicy bucket =>
      obtain ⟨after, hstep, hpair⟩ := map_eq_ok_iff.mp h
      obtain ⟨b, hb, hrest⟩ := bind_eq_ok_iff.mp hstep
      cases hpair
      cases hrest
      exact .deletePolicy (bucket_eq_ok_iff.mp hb)
  | put now bucket key body =>
      obtain ⟨⟨etag, after⟩, hstep, hpair⟩ := map_eq_ok_iff.mp h
      obtain ⟨⟨⟩, hkey, hrest⟩ := bind_eq_ok_iff.mp hstep
      obtain ⟨b, hb, hlast⟩ := bind_eq_ok_iff.mp hrest
      cases hlast
      cases hpair
      exact .put now body hkey (bucket_eq_ok_iff.mp hb)
  | delete bucket key =>
      obtain ⟨after, hstep, hpair⟩ := map_eq_ok_iff.mp h
      obtain ⟨b, hb, hrest⟩ := bind_eq_ok_iff.mp hstep
      cases hpair
      cases hrest
      exact .delete key (bucket_eq_ok_iff.mp hb)
  | deleteMany bucket keys =>
      obtain ⟨after, hstep, hpair⟩ := map_eq_ok_iff.mp h
      obtain ⟨b, hb, hrest⟩ := bind_eq_ok_iff.mp hstep
      cases hpair
      cases hrest
      exact .deleteMany keys (bucket_eq_ok_iff.mp hb)
  | copy now source target =>
      obtain ⟨after, hstep, hpair⟩ := map_eq_ok_iff.mp h
      obtain ⟨⟨⟩, hkey, hrest⟩ := bind_eq_ok_iff.mp hstep
      obtain ⟨o, ho, hrest⟩ := bind_eq_ok_iff.mp hrest
      obtain ⟨b, hb, hlast⟩ := bind_eq_ok_iff.mp hrest
      cases hpair
      cases hlast
      exact .copy now hkey (object_eq_ok_iff.mp ho) (bucket_eq_ok_iff.mp hb)
  | bucketExists _ | listBuckets | plainUrl _ | describe =>
      cases h
      exact .read rfl
  | policy _ | get _ _ | list _ | presign _ _ _ | verify _ _ =>
      obtain ⟨answer, -, hpair⟩ := map_eq_ok_iff.mp h
      cases hpair
      exact .read rfl

/-- Whether an operation on a store succeeds. -/
def Succeeds (s : Store) (op : Operation) : Prop := ∃ answer, (s.run op).1 = .ok answer

/-- **What a step does.**  An operation that succeeds makes one of the changes, and one that fails
leaves the store as it was. -/
theorem change_run (s : Store) (op : Operation) :
    (s.Succeeds op ∧ s.Change op (s.run op).2) ∨ (¬s.Succeeds op ∧ (s.run op).2 = s) := by
  unfold Succeeds run
  cases h : s.perform op with
  | error fault => exact Or.inr ⟨by simp, rfl⟩
  | ok result => exact Or.inl ⟨⟨result.1, rfl⟩, change_of_perform h⟩

theorem change_of_succeeds {s : Store} {op : Operation} (h : s.Succeeds op) :
    s.Change op (s.run op).2 := by
  rcases change_run s op with ⟨-, hchange⟩ | ⟨hfails, -⟩
  · exact hchange
  · exact absurd h hfails

theorem Change.config_eq {s t : Store} {op : Operation} (h : s.Change op t) :
    t.config = s.config := by
  cases h <;> rfl

/-- No operation changes the configuration of a store. -/
theorem config_run (s : Store) (op : Operation) : (s.run op).2.config = s.config := by
  rcases change_run s op with ⟨-, hchange⟩ | ⟨-, hsame⟩
  · exact hchange.config_eq
  · rw [hsame]

/-- A run answers what the operation comes to, without the store. -/
theorem answer_run (s : Store) (op : Operation) : (s.run op).1 = (s.perform op).map (·.1) := by
  rw [run]
  cases s.perform op with
  | error fault => rfl
  | ok result => rfl

/-- What deleting a bucket answers. -/
theorem answer_deleteBucket (s : Store) (name : String) :
    (s.run (.deleteBucket name)).1 =
      match s.buckets.get? name with
      | some b => if b.objects.isEmpty then .ok .done else .error (.bucketNotEmpty name)
      | none => .error (.noSuchBucket name) := by
  rw [answer_run, perform, deleteBucket, Store.bucket]
  cases s.buckets.get? name with
  | none => rfl
  | some b => cases hempty : b.objects.isEmpty <;> simp [hempty, bind, Except.bind, Except.map]

end Store

end ObjectAccess
