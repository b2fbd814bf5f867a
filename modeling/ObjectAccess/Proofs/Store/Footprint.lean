import Mathlib.Data.Set.Insert
import ObjectAccess.Proofs.Store.Heads

/-!
# Footprints

A store is made of cells: the head of each bucket and the object at each location.  What an
operation answers is decided by the cells that it needs (`AlikeFor.answer`), it changes no others
than those it alters (`sameAt_run_of_not_mem`), and what it leaves in a cell is decided by the
cells that it needs and by what was in that cell before (`AlikeFor.sameAt_run`).

An operation on an object needs only the head of the bucket, that is, whether there is one; it
does not need the other objects.  Deleting a bucket needs all of it, but alters no object: a
bucket that is deleted has none.
-/

namespace ObjectAccess

set_option autoImplicit false

open ObjectAccess.Time ObjectAccess.Naming

/-- Buckets with the same head and the same objects are equal. -/
theorem Bucket.eq_of_head {b c : Bucket} (hhead : b.head = c.head)
    (hobjects : ∀ key, b.objects.get? key = c.objects.get? key) : b = c := by
  obtain ⟨createdAt, policy, objects⟩ := b
  obtain ⟨createdAt', policy', objects'⟩ := c
  cases hhead
  cases Directory.ext_get? hobjects
  rfl

namespace Store

/-! ## Cells -/

/-- A part of a store that is read and written as a whole. -/
inductive Cell where
  | head (name : String)
  | object (place : ObjectLocation)

/-- The bucket that a cell belongs to. -/
def Cell.bucket : Cell → String
  | .head name => name
  | .object place => place.bucket

/-- Whether two stores have the same in a cell. -/
def SameAt (s t : Store) : Cell → Prop
  | .head name => s.head? name = t.head? name
  | .object place => s.object? place = t.object? place

variable {s t u : Store} {c : Cell} {op : Operation}

theorem SameAt.symm (h : s.SameAt t c) : t.SameAt s c := by
  cases c with
  | head name => exact Eq.symm h
  | object place => exact Eq.symm h

theorem SameAt.trans (h : s.SameAt t c) (h' : t.SameAt u c) : s.SameAt u c := by
  cases c with
  | head name => exact Eq.trans h h'
  | object place => exact Eq.trans h h'

/-- Where two stores have the same head, either both have no bucket, or both have one. -/
theorem get?_cases {name : String} (h : s.SameAt t (.head name)) :
    (s.buckets.get? name = none ∧ t.buckets.get? name = none) ∨
      ∃ b c, s.buckets.get? name = some b ∧ t.buckets.get? name = some c ∧ b.head = c.head := by
  have hhead : (s.buckets.get? name).map Bucket.head = (t.buckets.get? name).map Bucket.head := h
  cases hs : s.buckets.get? name <;> cases ht : t.buckets.get? name <;> simp_all

/-- Two stores that have the same in all cells of a bucket have the same bucket. -/
theorem get?_congr {name : String} (h : ∀ c : Cell, c.bucket = name → s.SameAt t c) :
    s.buckets.get? name = t.buckets.get? name := by
  rcases get?_cases (h (.head name) rfl) with ⟨hs, ht⟩ | ⟨b, c, hs, ht, hhead⟩
  · rw [hs, ht]
  · have hobjects : ∀ key, b.objects.get? key = c.objects.get? key := by
      intro key
      have hobject : s.object? ⟨name, key⟩ = t.object? ⟨name, key⟩ := h (.object ⟨name, key⟩) rfl
      rwa [object?_of_get? hs, object?_of_get? ht] at hobject
    rw [hs, ht, Bucket.eq_of_head hhead hobjects]

/-! ## What reading needs -/

theorem bucketExists_congr {name : String} (hhead : s.SameAt t (.head name)) :
    s.bucketExists name = t.bucketExists name := by
  rcases get?_cases hhead with ⟨hs, ht⟩ | ⟨b, c, hs, ht, -⟩
  · rw [bucketExists_eq_false_iff.mpr hs, bucketExists_eq_false_iff.mpr ht]
  · rw [bucketExists_iff.mpr ⟨b, hs⟩, bucketExists_iff.mpr ⟨c, ht⟩]

theorem policy_congr {name : String} (hhead : s.SameAt t (.head name)) :
    s.policy name = t.policy name := by
  have hpolicy : s.policy? name = t.policy? name := congrArg (·.bind Bucket.Head.policy) hhead
  rw [policy_eq, policy_eq, bucketExists_congr hhead, hpolicy]

theorem object_congr {name key : String} (hhead : s.SameAt t (.head name))
    (hobject : s.SameAt t (.object ⟨name, key⟩)) : s.object name key = t.object name key := by
  rcases get?_cases hhead with ⟨hs, ht⟩ | ⟨b, c, hs, ht, -⟩
  · simp only [object, Store.bucket, hs, ht]
  · have hget : b.objects.get? key = c.objects.get? key := by
      have hsame : s.object? ⟨name, key⟩ = t.object? ⟨name, key⟩ := hobject
      rwa [object?_of_get? hs, object?_of_get? ht] at hsame
    simp only [object, Store.bucket, hs, ht, bind, Except.bind, hget]

theorem list_congr {request : ListRequest}
    (h : ∀ c : Cell, c.bucket = request.bucket → s.SameAt t c) :
    s.list request = t.list request := by
  rw [list, list, Store.bucket, Store.bucket, get?_congr h]

/-- Stores with the same configuration and the same in all cells are equal. -/
theorem eq_of_sameAt (hconfig : s.config = t.config) (h : ∀ c, s.SameAt t c) : s = t := by
  have hbuckets : s.buckets = t.buckets :=
    Directory.ext_get? fun _ => get?_congr fun c _ => h c
  obtain ⟨config, buckets⟩ := s
  cases hconfig
  cases hbuckets
  rfl

/-! ## What an operation needs and alters -/

/-- The cells that decide what an operation answers. -/
def Operation.needs : Operation → Set Cell
  | .createBucket _ name | .bucketExists name | .policy name | .putPolicy name _
  | .deletePolicy name | .put _ name _ _ | .delete name _ | .deleteMany name _ => {.head name}
  | .get name key => {.head name, .object ⟨name, key⟩}
  | .copy _ source target => {.head source.bucket, .object source, .head target.bucket}
  | .deleteBucket name => {c | c.bucket = name}
  | .list request => {c | c.bucket = request.bucket}
  | .listBuckets | .describe => Set.univ
  | .reset | .presign _ _ _ | .plainUrl _ | .verify _ _ => ∅

/-- The cells that an operation may change. -/
def Operation.alters : Operation → Set Cell
  | .createBucket _ name | .deleteBucket name | .putPolicy name _ | .deletePolicy name =>
    {.head name}
  | .put _ name key _ | .delete name key => {.object ⟨name, key⟩}
  | .deleteMany name keys => {c | ∃ key ∈ keys, c = .object ⟨name, key⟩}
  | .copy _ _ target => {.object target}
  | .reset => Set.univ
  | .bucketExists _ | .policy _ | .get _ _ | .list _ | .listBuckets | .describe
  | .presign _ _ _ | .plainUrl _ | .verify _ _ => ∅

theorem head_mem_alters {name : String} (h : s.TouchesHead op name) : .head name ∈ op.alters := by
  rcases h with (⟨text, h⟩ | h | ⟨now, h⟩) | h
  · cases h with
    | putPolicy _ => exact Set.mem_singleton _
  · cases h with
    | deletePolicy _ => exact Set.mem_singleton _
  · cases h with
    | createBucket _ => exact Set.mem_singleton _
  · cases h with
    | deleteBucket _ => exact Set.mem_singleton _
    | reset => exact Set.mem_univ _

theorem object_mem_alters {place : ObjectLocation} (h : s.Touches op place) :
    .object place ∈ op.alters := by
  rcases h with ⟨o, h⟩ | h
  · cases h with
    | put _ => exact Set.mem_singleton _
    | copy _ _ => exact Set.mem_singleton _
  · cases h with
    | delete _ => exact Set.mem_singleton _
    | deleteMany _ hkey => exact ⟨_, hkey, rfl⟩
    | reset => exact Set.mem_univ _

/-- **Nothing else changes**: an operation leaves every cell as it is that it does not alter. -/
theorem sameAt_run_of_not_mem (hc : c ∉ op.alters) : s.SameAt (s.run op).2 c := by
  cases c with
  | head name => exact (head?_run_of_not_touchesHead fun h => hc (head_mem_alters h)).symm
  | object place => exact (object?_run_of_not_touches fun h => hc (object_mem_alters h)).symm

/-! ## Stores that are alike for an operation -/

/-- Whether two stores have the same configuration and the same in all cells that an operation
needs. -/
structure AlikeFor (s t : Store) (op : Operation) : Prop where
  config : s.config = t.config
  needs : ∀ c ∈ op.needs, s.SameAt t c

namespace AlikeFor

theorem symm (h : s.AlikeFor t op) : t.AlikeFor s op :=
  ⟨h.config.symm, fun c hc => (h.needs c hc).symm⟩

/-- Stores that are alike for an operation give the same answer. -/
theorem answer (h : s.AlikeFor t op) : (s.run op).1 = (t.run op).1 := by
  cases op with
  | deleteBucket name =>
      rw [answer_deleteBucket, answer_deleteBucket, get?_congr h.needs]
  | listBuckets | describe =>
      obtain rfl := eq_of_sameAt h.config fun c => h.needs c (Set.mem_univ c)
      rfl
  | reset => rfl
  | createBucket now name =>
      rw [answer_run, answer_run]
      rcases get?_cases (h.needs _ rfl) with ⟨hs, ht⟩ | ⟨b, c, hs, ht, -⟩ <;>
        simp only [perform, createBucket, bucketExists, Directory.contains, hs, ht] <;>
        cases checkBucketName name <;> rfl
  | putPolicy name text =>
      rw [answer_run, answer_run]
      rcases get?_cases (h.needs _ rfl) with ⟨hs, ht⟩ | ⟨b, c, hs, ht, -⟩ <;>
        simp only [perform, putPolicy, Store.bucket, hs, ht] <;> cases Json.parse text <;> rfl
  | deletePolicy name | delete name key | deleteMany name keys =>
      rw [answer_run, answer_run]
      rcases get?_cases (h.needs _ rfl) with ⟨hs, ht⟩ | ⟨b, c, hs, ht, -⟩ <;>
        simp only [perform, deletePolicy, delete, deleteMany, Store.bucket, hs, ht] <;> rfl
  | put now name key body =>
      rw [answer_run, answer_run]
      rcases get?_cases (h.needs _ rfl) with ⟨hs, ht⟩ | ⟨b, c, hs, ht, -⟩ <;>
        simp only [perform, put, Store.bucket, hs, ht] <;> cases checkObjectKey key <;> rfl
  | copy now source target =>
      have hobject : s.object source.bucket source.key = t.object source.bucket source.key :=
        object_congr (h.needs _ (Or.inl rfl)) (h.needs _ (Or.inr (Or.inl rfl)))
      have htarget : s.SameAt t (.head target.bucket) := h.needs _ (Or.inr (Or.inr rfl))
      rw [answer_run, answer_run]
      simp only [perform, copy, hobject]
      cases checkObjectKey target.key with
      | error fault => rfl
      | ok _ =>
          cases t.object source.bucket source.key with
          | error fault => rfl
          | ok o =>
              rcases get?_cases htarget with ⟨hs, ht⟩ | ⟨b, c, hs, ht, -⟩ <;>
                simp only [Store.bucket, hs, ht] <;> rfl
  | bucketExists name =>
      rw [answer_run, answer_run, perform, perform, bucketExists_congr (h.needs _ rfl)]
      rfl
  | policy name =>
      rw [answer_run, answer_run, perform, perform, policy_congr (h.needs _ rfl)]
      cases t.policy name <;> rfl
  | get name key =>
      have hget : s.get name key = t.get name key := by
        rw [get, get, object_congr (h.needs _ (Or.inl rfl)) (h.needs _ (Or.inr rfl))]
      rw [answer_run, answer_run, perform, perform, hget]
      cases t.get name key <;> rfl
  | list request =>
      rw [answer_run, answer_run, perform, perform, list_congr h.needs]
      cases t.list request <;> rfl
  | presign object signedAt expiresAt =>
      have hurl : s.presign object signedAt expiresAt = t.presign object signedAt expiresAt := by
        simp only [presign, presignRequest, h.config]
      rw [answer_run, answer_run, perform, perform, hurl]
      cases t.presign object signedAt expiresAt <;> rfl
  | plainUrl object =>
      have hurl : s.plainUrl object = t.plainUrl object := by simp only [plainUrl, h.config]
      rw [answer_run, answer_run, perform, perform, hurl]
      rfl
  | verify url now =>
      have hverdict : s.verify url now = t.verify url now := by simp only [verify, h.config]
      rw [answer_run, answer_run, perform, perform, hverdict]
      cases answerOfVerdict (t.verify url now) <;> rfl

theorem succeeds (h : s.AlikeFor t op) (hsucceeds : s.Succeeds op) : t.Succeeds op := by
  obtain ⟨answer, hanswer⟩ := hsucceeds
  exact ⟨answer, h.answer ▸ hanswer⟩

/-! ### The same events -/

theorem creates (h : s.AlikeFor t op) {name : String} {now : Instant}
    (hevent : s.Creates op name now) : t.Creates op name now := by
  cases hevent with
  | createBucket hsucceeds => exact .createBucket (h.succeeds hsucceeds)

theorem endsBucket (h : s.AlikeFor t op) {name : String} (hevent : s.EndsBucket op name) :
    t.EndsBucket op name := by
  cases hevent with
  | deleteBucket hsucceeds => exact .deleteBucket (h.succeeds hsucceeds)
  | reset => exact .reset name

theorem attaches (h : s.AlikeFor t op) {name text : String} (hevent : s.Attaches op name text) :
    t.Attaches op name text := by
  cases hevent with
  | putPolicy hsucceeds => exact .putPolicy (h.succeeds hsucceeds)

theorem detaches (h : s.AlikeFor t op) {name : String} (hevent : s.Detaches op name) :
    t.Detaches op name := by
  cases hevent with
  | deletePolicy hsucceeds => exact .deletePolicy (h.succeeds hsucceeds)

theorem touchesHead (h : s.AlikeFor t op) {name : String} (hevent : s.TouchesHead op name) :
    t.TouchesHead op name := by
  rcases hevent with (⟨text, hevent⟩ | hevent | ⟨now, hevent⟩) | hevent
  · exact Or.inl (Or.inl ⟨text, h.attaches hevent⟩)
  · exact Or.inl (Or.inr (Or.inl (h.detaches hevent)))
  · exact Or.inl (Or.inr (Or.inr ⟨now, h.creates hevent⟩))
  · exact Or.inr (h.endsBucket hevent)

/-- A copy writes the same body, because it needs its source. -/
theorem writes (h : s.AlikeFor t op) {place : ObjectLocation} {o : StoredObject}
    (hevent : s.Writes op place o) : t.Writes op place o := by
  cases hevent with
  | put hsucceeds => exact .put (h.succeeds hsucceeds)
  | @copy now source _ body hsucceeds hbody =>
      have hget : s.get source.bucket source.key = t.get source.bucket source.key := by
        rw [get, get, object_congr (h.needs _ (Or.inl rfl)) (h.needs _ (Or.inr (Or.inl rfl)))]
      exact .copy (h.succeeds hsucceeds) (hget ▸ hbody)

theorem removes (h : s.AlikeFor t op) {place : ObjectLocation} (hevent : s.Removes op place) :
    t.Removes op place := by
  cases hevent with
  | delete hsucceeds => exact .delete (h.succeeds hsucceeds)
  | deleteMany hsucceeds hkey => exact .deleteMany (h.succeeds hsucceeds) hkey
  | reset => exact .reset place

theorem touches (h : s.AlikeFor t op) {place : ObjectLocation} (hevent : s.Touches op place) :
    t.Touches op place := by
  rcases hevent with ⟨o, hevent⟩ | hevent
  · exact Or.inl ⟨o, h.writes hevent⟩
  · exact Or.inr (h.removes hevent)

/-! ### The same contents -/

theorem head?_run (h : s.AlikeFor t op) {name : String} (hhead : s.head? name = t.head? name) :
    (s.run op).2.head? name = (t.run op).2.head? name := by
  by_cases htouches : s.TouchesHead op name
  · rcases htouches with (⟨text, hevent⟩ | hevent | ⟨now, hevent⟩) | hevent
    · obtain ⟨head, hs, hafter⟩ := head?_run_of_attaches hevent
      obtain ⟨head', ht, hafter'⟩ := head?_run_of_attaches (h.attaches hevent)
      obtain rfl : head = head' := Option.some.inj (hs.symm.trans (hhead.trans ht))
      rw [hafter, hafter']
    · obtain ⟨head, hs, hafter⟩ := head?_run_of_detaches hevent
      obtain ⟨head', ht, hafter'⟩ := head?_run_of_detaches (h.detaches hevent)
      obtain rfl : head = head' := Option.some.inj (hs.symm.trans (hhead.trans ht))
      rw [hafter, hafter']
    · rw [(head?_run_of_creates hevent).2, (head?_run_of_creates (h.creates hevent)).2]
    · rw [head?_run_of_endsBucket hevent, head?_run_of_endsBucket (h.endsBucket hevent)]
  · have htouches' : ¬t.TouchesHead op name := fun hevent => htouches (h.symm.touchesHead hevent)
    rw [head?_run_of_not_touchesHead htouches, head?_run_of_not_touchesHead htouches', hhead]

theorem object?_run (h : s.AlikeFor t op) {place : ObjectLocation}
    (hobject : s.object? place = t.object? place) :
    (s.run op).2.object? place = (t.run op).2.object? place := by
  by_cases htouches : s.Touches op place
  · rcases htouches with ⟨o, hevent⟩ | hevent
    · rw [object?_run_of_writes hevent, object?_run_of_writes (h.writes hevent)]
    · rw [object?_run_of_removes hevent, object?_run_of_removes (h.removes hevent)]
  · have htouches' : ¬t.Touches op place := fun hevent => htouches (h.symm.touches hevent)
    rw [object?_run_of_not_touches htouches, object?_run_of_not_touches htouches', hobject]

/-- Cells with the same contents have the same contents afterwards. -/
theorem sameAt_run (h : s.AlikeFor t op) (hc : s.SameAt t c) :
    (s.run op).2.SameAt (t.run op).2 c := by
  cases c with
  | head name => exact h.head?_run hc
  | object place => exact h.object?_run hc

end AlikeFor

end Store

end ObjectAccess
