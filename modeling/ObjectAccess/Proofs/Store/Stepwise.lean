import ObjectAccess.Proofs.Access.Requests

/-!
# Operations of a store, step by step

An operation looks things up, checks them and writes.  Here each is done as a task in which every
write takes place at once and stays, even if a later step fails.  A run that gives the store back
after a failure comes to the same (`start_steps`): the checks of every operation are before its
first write, and the only operation with several writes, the deletion of many objects, has none
that fails.
-/

namespace ObjectAccess.Store

set_option autoImplicit false

open ObjectAccess.Naming

/-! ## Writes -/

/-- The store with a bucket changed where it stands; without such a bucket there is no change. -/
def changeBucket (s : Store) (name : String) (f : Bucket → Bucket) : Store :=
  match s.buckets.get? name with
  | some b => s.withBucket name (f b)
  | none => s

/-- The step that writes. -/
def write (f : Store → Store) : Task Store Unit := .of fun s => (.ok (), f s)

/-- The step that removes a bucket if there is one and it holds no objects, and says whether it
did. -/
def removeIfEmpty (name : String) : Task Store Bool :=
  .of fun s =>
    match s.buckets.get? name with
    | some b =>
      if b.objects.isEmpty then (.ok true, { s with buckets := s.buckets.erase name })
      else (.ok false, s)
    | none => (.ok false, s)

/-- The steps that look a bucket up and change it. -/
def writeTo (name : String) (f : Bucket → Bucket) (answer : Answer) : Task Store Answer := do
  let _ ← Task.look (·.bucket name)
  write (·.changeBucket name f)
  return answer

/-- The steps of an operation in their order. -/
def Operation.steps : Operation → Task Store Answer
  | .createBucket now name => do
    Task.look fun _ => checkBucketName name
    Task.look fun s => if s.bucketExists name then .error (.bucketAlreadyOwned name) else .ok ()
    write (·.withBucket name (.new now))
    return .done
  | .deleteBucket name => do
    if ← removeIfEmpty name then
      return .done
    else
      Task.look fun s =>
        if s.bucketExists name then .error (.bucketNotEmpty name)
        else .error (.noSuchBucket name)
  | .reset => do
    write Store.reset
    return .done
  | .putPolicy name text => do
    let _ ← Task.look (·.bucket name)
    let _ ← Task.look fun _ => (Json.parse text).mapError .malformedPolicy
    write (·.changeBucket name fun b => { b with policy := some text })
    return .done
  | .deletePolicy name => writeTo name (fun b => { b with policy := none }) .done
  | .put now name key body => do
    Task.look fun _ => checkObjectKey key
    writeTo name (·.put key (.ofBody body now)) (.text (entityTag body))
  | .delete name key => writeTo name (·.delete key) .done
  | .deleteMany name keys => do
    let _ ← Task.look (·.bucket name)
    forM keys fun key => write (·.changeBucket name (·.delete key))
    return .done
  | .copy now source target => do
    Task.look fun _ => checkObjectKey target.key
    let o ← Task.look (·.object source.bucket source.key)
    writeTo target.bucket (·.put target.key (.ofBody o.body now)) .done
  | op => Task.look fun s => (s.perform op).map (·.1)

/-! ## What the steps come to -/

variable {s : Store} {name : String} {b : Bucket}

theorem changeBucket_of_get? (h : s.buckets.get? name = some b) (f : Bucket → Bucket) :
    s.changeBucket name f = s.withBucket name (f b) := by
  rw [changeBucket, h]

theorem start_write_bind {α : Type} (f : Store → Store) (g : Unit → Task Store α) (s : Store) :
    (write f >>= g).start s = (g ()).start (f s) := rfl

theorem start_look_bind {α β : Type} (f : Store → Except Fault α) (g : α → Task Store β)
    (s : Store) :
    (Task.look f >>= g).start s =
      match f s with
      | .ok x => (g x).start s
      | .error fault => (.error fault, s) := by
  rw [Task.start_bind, Task.start_look]
  cases f s with
  | ok x => rfl
  | error fault => rfl

theorem start_removeIfEmpty (name : String) (s : Store) :
    (removeIfEmpty name).start s =
      match s.buckets.get? name with
      | some b =>
        if b.objects.isEmpty then (.ok true, { s with buckets := s.buckets.erase name })
        else (.ok false, s)
      | none => (.ok false, s) := rfl

theorem start_writeTo (name : String) (f : Bucket → Bucket) (answer : Answer) (s : Store) :
    (writeTo name f answer).start s =
      match s.bucket name with
      | .ok b => (.ok answer, s.withBucket name (f b))
      | .error fault => (.error fault, s) := by
  rw [writeTo, start_look_bind]
  cases hb : s.bucket name with
  | error fault => rfl
  | ok b =>
      simp only [start_write_bind, changeBucket_of_get? (bucket_eq_ok_iff.mp hb)]
      rfl

/-- Writing a bucket back changes nothing. -/
theorem withBucket_of_get? (h : s.buckets.get? name = some b) : s.withBucket name b = s := by
  have hbuckets : s.buckets.insert name b = s.buckets := by
    apply Directory.ext_get?
    intro other
    by_cases hother : other = name
    · subst hother
      rw [Directory.get?_insert_self, h]
    · exact Directory.get?_insert_of_ne _ _ hother
  rw [withBucket, hbuckets]

/-- Of two writes of one bucket the second counts. -/
theorem withBucket_withBucket (s : Store) (name : String) (first second : Bucket) :
    (s.withBucket name first).withBucket name second = s.withBucket name second := by
  have hbuckets : (s.buckets.insert name first).insert name second =
      s.buckets.insert name second := by
    apply Directory.ext_get?
    intro other
    by_cases hother : other = name
    · subst hother
      rw [Directory.get?_insert_self, Directory.get?_insert_self]
    · rw [Directory.get?_insert_of_ne _ _ hother, Directory.get?_insert_of_ne _ _ hother,
        Directory.get?_insert_of_ne _ _ hother]
  exact congrArg (Store.mk s.config) hbuckets

/-- Deleting objects one by one comes to deleting them at once. -/
theorem start_deletes (keys : List String) (h : s.buckets.get? name = some b) :
    (forM keys fun key => write (·.changeBucket name (·.delete key))).start s =
      (.ok (), s.withBucket name (b.deleteMany keys)) := by
  induction keys generalizing s b with
  | nil =>
      rw [Bucket.deleteMany, List.foldl_nil, withBucket_of_get? h]
      rfl
  | cons key rest ih =>
      have hnext : (s.withBucket name (b.delete key)).buckets.get? name = some (b.delete key) :=
        get?_withBucket ..
      rw [List.forM_cons, start_write_bind, changeBucket_of_get? h, ih hnext,
        withBucket_withBucket]
      rfl

/-- An operation that reads answers what it computes. -/
theorem run_of_perform_eq_map {op : Operation} {α : Type} {x : Except Fault α} {f : α → Answer}
    (h : s.perform op = x.map fun a => (f a, s)) :
    s.run op = ((s.perform op).map (·.1), s) := by
  rw [run, h]
  cases x with
  | ok a => rfl
  | error fault => rfl

/-- **Step by step or at once**: an operation whose writes stay when a later step fails comes to
the same answer and the same store. -/
theorem start_steps (op : Operation) (s : Store) : op.steps.start s = s.run op := by
  cases op with
  | createBucket now name =>
      rw [Operation.steps, start_look_bind, run, perform, createBucket]
      cases checkBucketName name with
      | error fault => rfl
      | ok _ =>
          simp only [start_look_bind]
          cases hexists : s.bucketExists name with
          | true => rfl
          | false => rfl
  | deleteBucket name =>
      rw [Operation.steps, Task.start_bind, start_removeIfEmpty, run, perform, deleteBucket, bucket]
      cases hb : s.buckets.get? name with
      | none =>
          have hexists : s.bucketExists name = false := bucketExists_eq_false_iff.mpr hb
          simp [hexists, bind, Except.bind, Except.map]
      | some b =>
          have hexists : s.bucketExists name = true := bucketExists_iff.mpr ⟨b, hb⟩
          cases hempty : b.objects.isEmpty with
          | true => simp [hempty, bind, Except.bind, Except.map]
          | false => simp [hempty, hexists, bind, Except.bind, Except.map]
  | reset => rfl
  | putPolicy name text =>
      rw [Operation.steps, start_look_bind, run, perform, putPolicy]
      cases hb : s.bucket name with
      | error fault => rfl
      | ok b =>
          simp only [start_look_bind]
          cases Json.parse text with
          | error reason => rfl
          | ok value =>
              change (write _ >>= fun _ => pure Answer.done).start s = _
              rw [start_write_bind, changeBucket_of_get? (bucket_eq_ok_iff.mp hb)]
              rfl
  | deletePolicy name =>
      rw [Operation.steps, start_writeTo, run, perform, deletePolicy]
      cases s.bucket name with
      | error fault => rfl
      | ok b => rfl
  | put now name key body =>
      rw [Operation.steps, start_look_bind, run, perform, put]
      cases checkObjectKey key with
      | error fault => rfl
      | ok _ =>
          simp only [start_writeTo]
          cases s.bucket name with
          | error fault => rfl
          | ok b => rfl
  | delete name key =>
      rw [Operation.steps, start_writeTo, run, perform, delete]
      cases s.bucket name with
      | error fault => rfl
      | ok b => rfl
  | deleteMany name keys =>
      rw [Operation.steps, start_look_bind, run, perform, deleteMany]
      cases hb : s.bucket name with
      | error fault => rfl
      | ok b =>
          simp only [Task.start_bind_of_ok (start_deletes keys (bucket_eq_ok_iff.mp hb))]
          rfl
  | copy now source target =>
      rw [Operation.steps, start_look_bind, run, perform, copy]
      cases checkObjectKey target.key with
      | error fault => rfl
      | ok _ =>
          simp only [start_look_bind]
          cases s.object source.bucket source.key with
          | error fault => rfl
          | ok o =>
              simp only [start_writeTo]
              cases s.bucket target.bucket with
              | error fault => rfl
              | ok b => rfl
  | bucketExists _ | listBuckets | plainUrl _ | describe => rfl
  | policy _ | get _ _ | list _ | presign _ _ _ | verify _ _ =>
      exact (run_of_perform_eq_map rfl).symm

end ObjectAccess.Store
