import ObjectAccess.Proofs.Store.History

/-!
# The heads of buckets

Beside its objects a bucket has a head: when it was created, and its policy.  Four kinds of
operations touch the head of a bucket, each only if it succeeds: its creation, its end, and
attaching and detaching a policy.  The lemmas about them say what the head is before and after,
and under every other operation it stays as it is (`head?_run_of_not_touchesHead`).
-/

namespace ObjectAccess

set_option autoImplicit false

open ObjectAccess.Time

/-! ## Heads -/

namespace Bucket

/-- What a bucket has beside its objects. -/
structure Head where
  createdAt : Instant
  policy : Option String
  deriving DecidableEq

/-- The head of a bucket. -/
def head (b : Bucket) : Head := ⟨b.createdAt, b.policy⟩

theorem head_put (b : Bucket) (key : String) (o : StoredObject) : (b.put key o).head = b.head := rfl

theorem head_delete (b : Bucket) (key : String) : (b.delete key).head = b.head := rfl

theorem head_deleteMany (keys : List String) (b : Bucket) : (b.deleteMany keys).head = b.head := by
  induction keys generalizing b with
  | nil => rfl
  | cons key rest ih => exact ih (b.delete key)

end Bucket

namespace Store

/-- The head of the bucket of a name. -/
def head? (s : Store) (name : String) : Option Bucket.Head :=
  (s.buckets.get? name).map Bucket.head

theorem head?_of_get? {s : Store} {name : String} {b : Bucket}
    (h : s.buckets.get? name = some b) : s.head? name = some b.head := by
  rw [head?, h]
  rfl

theorem head?_withBucket (s : Store) (name : String) (b : Bucket) (other : String) :
    (s.withBucket name b).head? other = if other = name then some b.head else s.head? other := by
  unfold head? withBucket
  by_cases h : other = name
  · rw [h, Directory.get?_insert_self, if_pos rfl]
    rfl
  · rw [Directory.get?_insert_of_ne _ _ h, if_neg h]

/-- A bucket that takes the place of one with the same head changes no head. -/
theorem head?_withBucket_of_get? {s : Store} {name : String} {b after : Bucket}
    (h : s.buckets.get? name = some b) (hhead : after.head = b.head) (other : String) :
    (s.withBucket name after).head? other = s.head? other := by
  rw [head?_withBucket]
  split
  · next hname => rw [hname, head?_of_get? h, hhead]
  · rfl

theorem bucketExists_iff_head? {s : Store} {name : String} :
    s.bucketExists name = true ↔ ∃ h, s.head? name = some h := by
  rw [bucketExists_iff]
  constructor
  · rintro ⟨b, hb⟩
    exact ⟨b.head, head?_of_get? hb⟩
  · rintro ⟨h, hh⟩
    obtain ⟨b, hb, -⟩ := Option.map_eq_some_iff.mp hh
    exact ⟨b, hb⟩

/-- The instant at which the bucket of a name was created. -/
def createdAt? (s : Store) (name : String) : Option Instant :=
  (s.head? name).map Bucket.Head.createdAt

/-- The policy of the bucket of a name. -/
def policy? (s : Store) (name : String) : Option String :=
  (s.head? name).bind Bucket.Head.policy

theorem bucketExists_iff_createdAt? {s : Store} {name : String} :
    s.bucketExists name = true ↔ ∃ since, s.createdAt? name = some since := by
  rw [bucketExists_iff_head?, createdAt?]
  cases s.head? name <;> simp

/-- What reading a policy answers, by what the bucket has. -/
theorem policy_eq (s : Store) (name : String) :
    s.policy name =
      if s.bucketExists name then
        match s.policy? name with
        | some text => .ok text
        | none => .error (.noSuchBucketPolicy name)
      else .error (.noSuchBucket name) := by
  unfold policy Store.bucket bucketExists Directory.contains policy? head?
  cases s.buckets.get? name with
  | none => rfl
  | some b => cases hpolicy : b.policy <;> simp [hpolicy, Bucket.head, bind, Except.bind]

/-! ## What changes a head -/

/-- Whether an operation creates a bucket at an instant. -/
inductive Creates (s : Store) : Operation → String → Instant → Prop where
  | createBucket {now : Instant} {name : String}
      (hsucceeds : s.Succeeds (.createBucket now name)) :
      Creates s (.createBucket now name) name now

/-- Whether an operation is the end of a bucket. -/
inductive EndsBucket (s : Store) : Operation → String → Prop where
  | deleteBucket {name : String} (hsucceeds : s.Succeeds (.deleteBucket name)) :
      EndsBucket s (.deleteBucket name) name
  | reset (name : String) : EndsBucket s .reset name

/-- Whether an operation attaches a policy to a bucket. -/
inductive Attaches (s : Store) : Operation → String → String → Prop where
  | putPolicy {name text : String} (hsucceeds : s.Succeeds (.putPolicy name text)) :
      Attaches s (.putPolicy name text) name text

/-- Whether an operation detaches the policy of a bucket. -/
inductive Detaches (s : Store) : Operation → String → Prop where
  | deletePolicy {name : String} (hsucceeds : s.Succeeds (.deletePolicy name)) :
      Detaches s (.deletePolicy name) name

/-- Whether an operation attaches another policy to a bucket, detaches its policy or creates the
bucket. -/
def TouchesPolicy (s : Store) (op : Operation) (name : String) : Prop :=
  (∃ text, s.Attaches op name text) ∨ s.Detaches op name ∨ ∃ now, s.Creates op name now

/-- Whether an operation changes the head of a bucket. -/
def TouchesHead (s : Store) (op : Operation) (name : String) : Prop :=
  s.TouchesPolicy op name ∨ s.EndsBucket op name

theorem head?_run_of_creates {s : Store} {op : Operation} {name : String} {now : Instant}
    (h : s.Creates op name now) :
    s.head? name = none ∧ (s.run op).2.head? name = some ⟨now, none⟩ := by
  cases h with
  | createBucket hsucceeds =>
      have hchange := change_of_succeeds hsucceeds
      generalize (s.run _).2 = after at hchange ⊢
      cases hchange with
      | createBucket _ _ habsent =>
          refine ⟨by rw [head?, habsent]; rfl, ?_⟩
          rw [head?_withBucket, if_pos rfl]
          rfl
      | read hreads => cases hreads

theorem head?_run_of_endsBucket {s : Store} {op : Operation} {name : String}
    (h : s.EndsBucket op name) : (s.run op).2.head? name = none := by
  cases h with
  | deleteBucket hsucceeds =>
      have hchange := change_of_succeeds hsucceeds
      generalize (s.run _).2 = after at hchange ⊢
      cases hchange with
      | deleteBucket _ _ =>
          rw [head?, Directory.get?_erase_self]
          rfl
      | read hreads => cases hreads
  | reset => rfl

theorem head?_run_of_attaches {s : Store} {op : Operation} {name text : String}
    (h : s.Attaches op name text) :
    ∃ head, s.head? name = some head ∧
      (s.run op).2.head? name = some { head with policy := some text } := by
  cases h with
  | putPolicy hsucceeds =>
      have hchange := change_of_succeeds hsucceeds
      generalize (s.run _).2 = after at hchange ⊢
      cases hchange with
      | putPolicy hbucket _ =>
          refine ⟨_, head?_of_get? hbucket, ?_⟩
          rw [head?_withBucket, if_pos rfl]
          rfl
      | read hreads => cases hreads

theorem head?_run_of_detaches {s : Store} {op : Operation} {name : String}
    (h : s.Detaches op name) :
    ∃ head, s.head? name = some head ∧
      (s.run op).2.head? name = some { head with policy := none } := by
  cases h with
  | deletePolicy hsucceeds =>
      have hchange := change_of_succeeds hsucceeds
      generalize (s.run _).2 = after at hchange ⊢
      cases hchange with
      | deletePolicy hbucket =>
          refine ⟨_, head?_of_get? hbucket, ?_⟩
          rw [head?_withBucket, if_pos rfl]
          rfl
      | read hreads => cases hreads

/-- A bucket keeps its head under every operation that does not touch it. -/
theorem head?_run_of_not_touchesHead {s : Store} {op : Operation} {name : String}
    (h : ¬s.TouchesHead op name) : (s.run op).2.head? name = s.head? name := by
  rcases change_run s op with ⟨hsucceeds, hchange⟩ | ⟨-, hsame⟩
  · generalize (s.run op).2 = after at hchange ⊢
    cases hchange with
    | @createBucket now bucket _ _ =>
        have hname : name ≠ bucket := by
          rintro rfl
          exact h (Or.inl (Or.inr (Or.inr ⟨now, .createBucket hsucceeds⟩)))
        rw [head?_withBucket, if_neg hname]
    | @deleteBucket bucket _ _ _ =>
        have hname : name ≠ bucket := by
          rintro rfl
          exact h (Or.inr (.deleteBucket hsucceeds))
        rw [head?, head?, Directory.get?_erase_of_ne _ hname]
    | reset => exact absurd (Or.inr (.reset name)) h
    | @putPolicy bucket text _ _ _ _ =>
        have hname : name ≠ bucket := by
          rintro rfl
          exact h (Or.inl (Or.inl ⟨text, .putPolicy hsucceeds⟩))
        rw [head?_withBucket, if_neg hname]
    | @deletePolicy bucket _ _ =>
        have hname : name ≠ bucket := by
          rintro rfl
          exact h (Or.inl (Or.inr (Or.inl (.deletePolicy hsucceeds))))
        rw [head?_withBucket, if_neg hname]
    | put _ _ _ hbucket => exact head?_withBucket_of_get? hbucket (Bucket.head_put ..) name
    | delete _ hbucket => exact head?_withBucket_of_get? hbucket (Bucket.head_delete ..) name
    | deleteMany keys hbucket =>
        exact head?_withBucket_of_get? hbucket (Bucket.head_deleteMany keys _) name
    | copy _ _ _ hbucket => exact head?_withBucket_of_get? hbucket (Bucket.head_put ..) name
    | read _ => rfl
  · rw [hsame]

end Store

end ObjectAccess
