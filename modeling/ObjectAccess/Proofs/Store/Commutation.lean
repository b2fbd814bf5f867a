import ObjectAccess.Proofs.Store.Footprint

/-!
# Operations that commute

Two operations commute if running them in either order gives each of them the same answer and
leaves the same store.  They do so if neither alters what the other needs or alters
(`commute_of_disjoint`): the second one then finds all that it needs as it would have been without
the first.

Operations that address different buckets are of this kind, since what an operation needs and
alters belongs to the buckets that it addresses; and so are operations that put or delete
different keys of one bucket, since each needs no more than that the bucket exists
(`commute_of_independent`).
-/

namespace ObjectAccess.Store

set_option autoImplicit false

open ObjectAccess.Time

/-- Whether two operations give the same answers and leave the same store in either order. -/
structure Commute (s : Store) (a b : Operation) : Prop where
  answer_left : ((s.run b).2.run a).1 = (s.run a).1
  answer_right : ((s.run a).2.run b).1 = (s.run b).1
  store : ((s.run a).2.run b).2 = ((s.run b).2.run a).2

variable {s : Store} {a b op : Operation}

/-- An operation that alters nothing another one needs leaves the store alike for it. -/
theorem alikeFor_run (h : ∀ c ∈ b.alters, c ∉ a.needs) : s.AlikeFor (s.run b).2 a where
  config := (config_run s b).symm
  needs _ hc := sameAt_run_of_not_mem fun halters => h _ halters hc

/-- **Operations with separate footprints commute.** -/
theorem commute_of_disjoint (hneeds : ∀ c ∈ b.alters, c ∉ a.needs)
    (hneeds' : ∀ c ∈ a.alters, c ∉ b.needs) (halters : ∀ c ∈ a.alters, c ∉ b.alters) (s : Store) :
    s.Commute a b where
  answer_left := (alikeFor_run hneeds).answer.symm
  answer_right := (alikeFor_run hneeds').answer.symm
  store := by
    have ha : s.AlikeFor (s.run b).2 a := alikeFor_run hneeds
    have hb : s.AlikeFor (s.run a).2 b := alikeFor_run hneeds'
    refine eq_of_sameAt ?_ fun c => ?_
    · rw [config_run, config_run, config_run, config_run]
    · -- In either order a cell that `a` alters is as `a` leaves it, and any other as `b` does.
      by_cases hc : c ∈ a.alters
      · have hfree : c ∉ b.alters := halters c hc
        exact (sameAt_run_of_not_mem hfree).symm.trans (ha.sameAt_run (sameAt_run_of_not_mem hfree))
      · exact (hb.sameAt_run (sameAt_run_of_not_mem hc)).symm.trans (sameAt_run_of_not_mem hc)

/-! ## Different buckets -/

/-- The buckets that an operation addresses: that it looks at or changes.  An operation on the
whole store addresses all buckets, and one that builds or checks a URL addresses none. -/
def Operation.addresses : Operation → Set String
  | .createBucket _ bucket | .deleteBucket bucket | .bucketExists bucket | .policy bucket
  | .putPolicy bucket _ | .deletePolicy bucket | .put _ bucket _ _ | .get bucket _
  | .delete bucket _ | .deleteMany bucket _ => {bucket}
  | .copy _ source target => {source.bucket, target.bucket}
  | .list request => {request.bucket}
  | .listBuckets | .reset | .describe => Set.univ
  | .presign _ _ _ | .plainUrl _ | .verify _ _ => ∅

theorem bucket_mem_of_mem_needs {c : Cell} (h : c ∈ op.needs) : c.bucket ∈ op.addresses := by
  cases op with
  | get name key =>
      rcases h with rfl | rfl
      · exact rfl
      · exact rfl
  | copy now source target =>
      rcases h with rfl | rfl | rfl
      · exact Or.inl rfl
      · exact Or.inl rfl
      · exact Or.inr rfl
  | listBuckets | describe => exact trivial
  | reset | presign _ _ _ | plainUrl _ | verify _ _ => cases h
  | deleteBucket _ | list _ => exact h
  | createBucket _ _ | bucketExists _ | policy _ | putPolicy _ _ | deletePolicy _ | put _ _ _ _
  | delete _ _ | deleteMany _ _ =>
      cases h
      exact rfl

theorem bucket_mem_of_mem_alters {c : Cell} (h : c ∈ op.alters) : c.bucket ∈ op.addresses := by
  cases op with
  | deleteMany name keys =>
      obtain ⟨key, -, rfl⟩ := h
      exact rfl
  | copy now source target =>
      cases h
      exact Or.inr rfl
  | reset => exact trivial
  | createBucket _ _ | deleteBucket _ | putPolicy _ _ | deletePolicy _ | put _ _ _ _ | delete _ _ =>
      cases h
      exact rfl
  | bucketExists _ | policy _ | get _ _ | list _ | listBuckets | describe | presign _ _ _
  | plainUrl _ | verify _ _ => cases h

/-! ## Different keys -/

/-- Whether an operation puts or deletes keys of a bucket. -/
inductive Operation.ChangesKeys : Operation → String → List String → Prop where
  | put (now : Instant) (bucket key : String) (body : List UInt8) :
      ChangesKeys (.put now bucket key body) bucket [key]
  | delete (bucket key : String) : ChangesKeys (.delete bucket key) bucket [key]
  | deleteMany (bucket : String) (keys : List String) :
      ChangesKeys (.deleteMany bucket keys) bucket keys

namespace Operation.ChangesKeys

variable {bucket : String} {keys : List String}

theorem needs_eq (h : op.ChangesKeys bucket keys) : op.needs = {.head bucket} := by
  cases h <;> rfl

theorem exists_key (h : op.ChangesKeys bucket keys) {c : Cell} (hc : c ∈ op.alters) :
    ∃ key ∈ keys, c = .object ⟨bucket, key⟩ := by
  cases h with
  | put _ _ key _ => exact ⟨key, List.mem_singleton_self key, hc⟩
  | delete _ key => exact ⟨key, List.mem_singleton_self key, hc⟩
  | deleteMany _ _ => exact hc

/-- An operation that puts or deletes keys alters nothing that another one needs. -/
theorem not_mem_needs {others : List String} (ha : a.ChangesKeys bucket keys)
    (hb : b.ChangesKeys bucket others) : ∀ c ∈ a.alters, c ∉ b.needs := by
  intro c hc hneeds
  obtain ⟨key, -, rfl⟩ := ha.exists_key hc
  rw [hb.needs_eq] at hneeds
  cases hneeds

end Operation.ChangesKeys

/-! ## Independent operations -/

/-- Whether two operations address different buckets, or put or delete different keys of one
bucket. -/
inductive Operation.Independent (a b : Operation) : Prop where
  | ofBuckets (h : ∀ name ∈ a.addresses, name ∉ b.addresses)
  | ofKeys {bucket : String} {keys others : List String} (ha : a.ChangesKeys bucket keys)
      (hb : b.ChangesKeys bucket others) (h : ∀ key ∈ keys, key ∉ others)

/-- **Independent operations commute**, in every store: with the clock readings fixed, running
them in either order gives each the same answer and leaves the same store. -/
theorem commute_of_independent (h : a.Independent b) (s : Store) : s.Commute a b := by
  cases h with
  | ofBuckets h =>
      refine commute_of_disjoint (fun c hb ha => ?_) (fun c ha hb => ?_) (fun c ha hb => ?_) s
      · exact h _ (bucket_mem_of_mem_needs ha) (bucket_mem_of_mem_alters hb)
      · exact h _ (bucket_mem_of_mem_alters ha) (bucket_mem_of_mem_needs hb)
      · exact h _ (bucket_mem_of_mem_alters ha) (bucket_mem_of_mem_alters hb)
  | ofKeys ha hb h =>
      refine commute_of_disjoint (hb.not_mem_needs ha) (ha.not_mem_needs hb) (fun c hac hbc => ?_) s
      obtain ⟨key, hkey, rfl⟩ := ha.exists_key hac
      obtain ⟨other, hother, heq⟩ := hb.exists_key hbc
      cases heq
      exact h key hkey hother

/-- A run that creates three buckets and puts an object into two of them. -/
def threeBuckets : List Operation :=
  [.createBucket .epoch "one", .createBucket .epoch "two", .createBucket .epoch "three",
    .put .epoch "one" "a" [120], .put .epoch "three" "a" [121]]

/-- The theorem after that run: a copy from one bucket to another commutes with the deletion of a
third one, which is refused, and a put commutes with a deletion of other keys. -/
theorem commute_of_independent_threeBuckets :
    let s := (empty .standard).runAll threeBuckets
    let copy : Operation := .copy .epoch ⟨"one", "a"⟩ ⟨"two", "b"⟩
    let put : Operation := .put .epoch "one" "c" [122]
    s.Succeeds copy ∧ ¬s.Succeeds (.deleteBucket "three") ∧ s.Succeeds put ∧
    copy.Independent (.deleteBucket "three") ∧ s.Commute copy (.deleteBucket "three") ∧
    put.Independent (.deleteMany "one" ["a", "b"]) ∧ s.Commute put (.deleteMany "one" ["a", "b"])
    := by
  intro s copy put
  have hbuckets : copy.Independent (.deleteBucket "three") := by
    refine .ofBuckets fun name hcopy hdelete => ?_
    rcases hcopy with rfl | rfl
    · exact absurd (show "one" = "three" from hdelete) (by decide)
    · exact absurd (show "two" = "three" from hdelete) (by decide)
  have hkeys : put.Independent (.deleteMany "one" ["a", "b"]) :=
    .ofKeys (.put _ _ _ _) (.deleteMany _ _) (by decide)
  refine ⟨⟨.done, rfl⟩, ?_, ⟨_, rfl⟩, hbuckets, commute_of_independent hbuckets s, hkeys,
    commute_of_independent hkeys s⟩
  rintro ⟨answer, hanswer⟩
  cases hanswer

end ObjectAccess.Store
