import ObjectAccess.Proofs.Store.Contents

/-!
# What every operation keeps

Nothing enters a store unchecked.  A bucket gets its name from an operation that checks it, an
object its key from one of two that check it, and a policy is attached only if it is JSON; the
tag of an object is computed from its body whenever an object is made.  These four together are
what every operation keeps (`WellFormed.run`).

An operation that goes to a bucket leaves all other buckets alone and the name as it is, so it
is enough that it keeps the bucket well formed (`WellFormed.replace`).
-/

namespace ObjectAccess

set_option autoImplicit false

open ObjectAccess.Time ObjectAccess.Naming

/-! ## Buckets -/

/-- Whether all that a bucket holds has passed its check. -/
structure Bucket.WellFormed (b : Bucket) : Prop where
  /-- Every key passes. -/
  keys : ∀ key o, b.objects.get? key = some o → checkObjectKey key = .ok ()
  /-- Every object has the tag of its body. -/
  tags : ∀ key o, b.objects.get? key = some o → o.etag = entityTag o.body
  /-- The policy is JSON. -/
  policy : ∀ text, b.policy = some text → ∃ value, Json.parse text = .ok value

namespace Bucket.WellFormed

theorem new (now : Instant) : (Bucket.new now).WellFormed where
  keys _ _ h := by cases h
  tags _ _ h := by cases h
  policy _ h := by cases h

variable {b : Bucket}

/-- An object with the tag of its body may be put under a key that passes. -/
theorem put (h : b.WellFormed) {key : String} (hkey : checkObjectKey key = .ok ())
    (body : List UInt8) (now : Instant) : (b.put key (.ofBody body now)).WellFormed where
  keys other o ho := by
    rw [get?_put] at ho
    by_cases hother : other = key
    · rw [hother]
      exact hkey
    · rw [if_neg hother] at ho
      exact h.keys other o ho
  tags other o ho := by
    rw [get?_put] at ho
    by_cases hother : other = key
    · rw [if_pos hother, Option.some.injEq] at ho
      subst ho
      rfl
    · rw [if_neg hother] at ho
      exact h.tags other o ho
  policy := h.policy

theorem delete (h : b.WellFormed) (key : String) : (b.delete key).WellFormed := by
  have hkept : ∀ other o, (b.delete key).objects.get? other = some o →
      b.objects.get? other = some o := by
    intro other o ho
    rw [get?_delete] at ho
    split at ho
    · cases ho
    · exact ho
  exact ⟨fun other o ho => h.keys other o (hkept other o ho),
    fun other o ho => h.tags other o (hkept other o ho), h.policy⟩

theorem deleteMany (h : b.WellFormed) (keys : List String) : (b.deleteMany keys).WellFormed := by
  induction keys generalizing b with
  | nil => exact h
  | cons key rest ih => exact ih (h.delete key)

/-- Only a text that is JSON may become the policy. -/
theorem withPolicy (h : b.WellFormed) {policy : Option String}
    (hpolicy : ∀ text, policy = some text → ∃ value, Json.parse text = .ok value) :
    ({ b with policy := policy } : Bucket).WellFormed where
  keys := h.keys
  tags := h.tags
  policy := hpolicy

end Bucket.WellFormed

/-! ## Stores -/

namespace Store

/-- Whether every bucket has a name that passes and is itself well formed. -/
structure WellFormed (s : Store) : Prop where
  names : ∀ name b, s.buckets.get? name = some b → checkBucketName name = .ok ()
  buckets : ∀ name b, s.buckets.get? name = some b → b.WellFormed

namespace WellFormed

theorem empty (config : Config) : (Store.empty config).WellFormed where
  names _ _ h := by cases h
  buckets _ _ h := by cases h

variable {s t : Store}

theorem withBucket (h : s.WellFormed) {name : String} {b : Bucket}
    (hname : checkBucketName name = .ok ()) (hb : b.WellFormed) :
    (s.withBucket name b).WellFormed := by
  have hgot : ∀ other c, (s.withBucket name b).buckets.get? other = some c →
      (other = name ∧ c = b) ∨ s.buckets.get? other = some c := by
    intro other c hc
    by_cases hother : other = name
    · subst hother
      rw [Store.get?_withBucket, Option.some.injEq] at hc
      exact Or.inl ⟨rfl, hc.symm⟩
    · rw [Store.withBucket, Directory.get?_insert_of_ne _ _ hother] at hc
      exact Or.inr hc
  constructor
  · intro other c hc
    rcases hgot other c hc with ⟨rfl, -⟩ | hold
    · exact hname
    · exact h.names other c hold
  · intro other c hc
    rcases hgot other c hc with ⟨-, rfl⟩ | hold
    · exact hb
    · exact h.buckets other c hold

/-- A bucket may take the place of one that is there. -/
theorem replace (h : s.WellFormed) {name : String} {b c : Bucket}
    (hbucket : s.buckets.get? name = some b) (hc : b.WellFormed → c.WellFormed) :
    (s.withBucket name c).WellFormed :=
  h.withBucket (h.names name b hbucket) (hc (h.buckets name b hbucket))

theorem erase (h : s.WellFormed) (name : String) :
    ({ s with buckets := s.buckets.erase name } : Store).WellFormed := by
  have hgot : ∀ other c, (s.buckets.erase name).get? other = some c →
      s.buckets.get? other = some c := by
    intro other c hc
    by_cases hother : other = name
    · rw [hother, Directory.get?_erase_self] at hc
      cases hc
    · rw [Directory.get?_erase_of_ne _ hother] at hc
      exact hc
  exact ⟨fun other c hc => h.names other c (hgot other c hc),
    fun other c hc => h.buckets other c (hgot other c hc)⟩

/-- What an operation that succeeds makes of a well-formed store is well formed. -/
theorem change {op : Operation} (h : s.WellFormed) (hchange : s.Change op t) : t.WellFormed := by
  cases hchange with
  | createBucket now hname _ => exact h.withBucket hname (.new now)
  | deleteBucket _ _ => exact h.erase _
  | reset => exact .empty s.config
  | putPolicy hbucket hjson =>
      apply h.replace hbucket
      intro hb
      apply hb.withPolicy
      intro text htext
      cases htext
      exact ⟨_, hjson⟩
  | deletePolicy hbucket =>
      apply h.replace hbucket
      intro hb
      apply hb.withPolicy
      intro text htext
      cases htext
  | put now body hkey hbucket => exact h.replace hbucket fun hb => hb.put hkey body now
  | delete key hbucket => exact h.replace hbucket fun hb => hb.delete key
  | deleteMany keys hbucket => exact h.replace hbucket fun hb => hb.deleteMany keys
  | copy now hkey _ hbucket => exact h.replace hbucket fun hb => hb.put hkey _ now
  | read _ => exact h

/-- **Every operation keeps a store well formed**, whether it succeeds or fails. -/
theorem run (h : s.WellFormed) (op : Operation) : (s.run op).2.WellFormed := by
  rcases change_run s op with ⟨-, hchange⟩ | ⟨-, hsame⟩
  · exact h.change hchange
  · rw [hsame]
    exact h

end WellFormed

end Store

end ObjectAccess
