import ObjectAccess.Proofs.Access.Atomicity
import ObjectAccess.Proofs.Access.Permissions

/-!
# Naming the default bucket and leaving it out

Every operation on a bucket first chooses the bucket, and nothing else in it looks at the default
of the client: clients with one resolver that choose the same bucket carry out the same task
(`onBucket_congr`).  So naming a bucket comes to the same as leaving it out where it is the default,
and without a name and a default no operation gets further than the choice
(`run_onBucket_unnamed`).  This is shown for any backend and any state of it.

A copy has a second bucket, which does not fall back on the default of the client but on the bucket
that was chosen for the source.
-/

namespace ObjectAccess.Client

set_option autoImplicit false

variable {σ : Type} [Backend σ]

/-! ## The choice -/

/-- Whether an argument names no bucket: it is absent or empty. -/
def Unnamed (bucket : Option String) : Prop := bucket = none ∨ bucket = some ""

theorem named?_of_unnamed {bucket : Option String} (h : Unnamed bucket) : named? bucket = none := by
  rcases h with rfl | rfl <;> rfl

/-- Without a name the default counts. -/
theorem bucket_of_unnamed (c : Client) {bucket : Option String} (h : Unnamed bucket) :
    c.bucket bucket = c.bucket (some c.defaultBucket) := by
  unfold Client.bucket
  rw [named?_of_unnamed h]
  cases named? (some c.defaultBucket) <;> rfl

/-- Without a name and a default there is no bucket. -/
theorem bucket_of_no_default {c : Client} {bucket : Option String} (h : Unnamed bucket)
    (hdefault : c.defaultBucket = "") : c.bucket bucket = .error .bucketNotSet := by
  rw [bucket_of_unnamed c h, hdefault, Client.bucket, hdefault]
  rfl

/-! ## The operations -/

/-- The default bucket is only looked at when the bucket is chosen. -/
theorem onBucket_congr {c d : Client} {b b' : Option String} (hbucket : c.bucket b = d.bucket b')
    (hresolver : c.resolver = d.resolver) (op : BucketOperation) :
    (c.onBucket b op : Task (Service σ) Answer) = d.onBucket b' op := by
  have hchosen : (c.chosen b : Task (Service σ) String) = d.chosen b' := by
    rw [chosen, chosen, hbucket]
  cases op with
  | url _ _ _ | signedUrl _ _ _ => simp only [onBucket, url, signedUrl, hchosen, hresolver]
  | upload _ _ _ _ _ => simp only [onBucket, upload, put, hchosen]
  | createBucket _ | deleteBucket | policy | applyPermissions _ | deletePolicy =>
      simp only [onBucket, createBucket, deleteBucket, policy, applyPermissions, deletePolicy,
        hchosen]
  | setPublic _ | publicPaths | isPublic _ =>
      simp only [onBucket, setPublic, publicPaths, isPublic, hchosen]
  | put _ _ _ | get _ | delete _ | deleteMany _ | list _ | listAll _ | copy _ _ _ _ _
  | plainUrl _ =>
      simp only [onBucket, put, get, delete, deleteMany, list, listAll, copy, plainUrl, hchosen]

theorem run_congr {c d : Client} {b b' : Option String} (hbucket : c.bucket b = d.bucket b')
    (hresolver : c.resolver = d.resolver) (op : BucketOperation) (s : Service σ) :
    c.run (.onBucket b op) s = d.run (.onBucket b' op) s :=
  congrArg (Task.start · s) (onBucket_congr hbucket hresolver op)

/-- A copy without a target bucket goes to the bucket of its source. -/
theorem run_copy_of_unnamed {c : Client} {bucket target : Option String} {name : String}
    (hname : c.bucket bucket = .ok name) (htarget : Unnamed target) (made now : Time.Instant)
    (path : String) (targetPath : Option String) (s : Service σ) :
    c.run (.onBucket bucket (.copy made now path target targetPath)) s =
      c.run (.onBucket bucket (.copy made now path (some name) targetPath)) s := by
  have hself : (named? (some name)).getD name = name := by
    unfold named?
    rw [Option.filter_some]
    split <;> rfl
  have hcopy : (c.copy made now bucket path target targetPath : Task (Service σ) String).start =
      (c.copy made now bucket path (some name) targetPath).start := by
    rw [copy, copy, start_chosen_bind c hname, start_chosen_bind c hname,
      named?_of_unnamed htarget, hself]
    rfl
  change (c.onBucket bucket (.copy made now path target targetPath)).start s =
    (c.onBucket bucket (.copy made now path (some name) targetPath)).start s
  rw [onBucket, onBucket, Task.start_bind, Task.start_bind, hcopy]

/-- **Naming the default bucket changes nothing.**  In every state of every backend, an operation on
a named bucket, by a client with any default, answers and does what it does by the same client with
that bucket for its default and with the name left out or empty.  With neither a name nor a default
it is refused as an invalid request, and nothing is changed.  The target of a copy is the bucket
that was chosen for the source if it is left out or empty. -/
theorem run_onBucket_unnamed (c : Client) (op : BucketOperation) (s : Service σ) {name : String}
    {bucket : Option String} (hname : name ≠ "") (hbucket : Unnamed bucket) :
    (∀ other, { c with defaultBucket := other }.run (.onBucket (some name) op) s =
      { c with defaultBucket := name }.run (.onBucket bucket op) s) ∧
    ({ c with defaultBucket := "" }.run (.onBucket bucket op) s = (.error .bucketNotSet, s) ∧
      Fault.bucketNotSet.kind = .invalidRequest ∧ Fault.bucketNotSet.status = 400) ∧
    ∀ source used made now path targetPath, c.bucket source = .ok used →
      c.run (.onBucket source (.copy made now path bucket targetPath)) s =
        c.run (.onBucket source (.copy made now path (some used) targetPath)) s := by
  refine ⟨fun other => ?_, ⟨?_, rfl, rfl⟩, ?_⟩
  · have hsame : { c with defaultBucket := other }.bucket (some name) =
        { c with defaultBucket := name }.bucket bucket := by
      rw [bucket_some _ hname, bucket_of_unnamed _ hbucket, bucket_some _ hname]
    exact run_congr hsame rfl op s
  · exact start_onBucket_of_error _ (bucket_of_no_default hbucket rfl) op s
  · intro source used made now path targetPath hused
    exact run_copy_of_unnamed hused hbucket made now path targetPath s

/-- The theorem at a copy inside a bucket that another client has for its default: the copy succeeds
for both clients, and for neither without a bucket. -/
theorem run_onBucket_unnamed_copy :
    let c : Client := ⟨"elsewhere", .standard⟩
    let copy := BucketOperation.copy .epoch .epoch "a" none (some "b")
    (c.run (.onBucket (some "main") copy) oneObject).1 = .ok (.text "b") ∧
      c.run (.onBucket (some "main") copy) oneObject =
        { c with defaultBucket := "main" }.run (.onBucket (some "") copy) oneObject ∧
      { c with defaultBucket := "" }.run (.onBucket (some "") copy) oneObject =
        (.error .bucketNotSet, oneObject) := by
  intro c copy
  have hname : "main" ≠ "" := by decide
  obtain ⟨hsame, hunset, -⟩ := run_onBucket_unnamed c copy oneObject hname (Or.inr rfl)
  exact ⟨rfl, hsame "elsewhere", hunset.1⟩

end ObjectAccess.Client
