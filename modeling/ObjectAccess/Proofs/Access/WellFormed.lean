import ObjectAccess.Proofs.Access.Normalised
import ObjectAccess.Proofs.Store.WellFormed

/-!
# What holds of a store that clients share

A store changes by operations straight on it and by the steps of its clients, in any order.  A
step of a client is at most one operation of the store, so whatever the operations of a store
keep, the clients keep too.  Started empty, the store stays well formed: names and keys pass
their checks, tags are those of the bodies, and policies are JSON.  So a client that reads a
policy never finds one that it cannot parse (`wellFormed_afterEvents`).
-/

namespace ObjectAccess.Client

set_option autoImplicit false

open ObjectAccess.Naming

/-! ## Events -/

/-- What happens to a store that clients share. -/
inductive Event where
  /-- An operation straight on the store. -/
  | direct (op : Store.Operation)
  /-- A step of a client, whatever public paths it sees. -/
  | byClient (step : Step)

/-- The store after an event. -/
def Event.after (s : Store) : Event → Store
  | .direct op => (s.run op).2
  | .byClient step => (step.run s).2

/-- The store after a sequence of events. -/
def afterEvents (s : Store) (events : List Event) : Store := events.foldl Event.after s

variable {s : Store}

/-- A step of a client makes one operation of the store, or none. -/
theorem Step.exists_request (step : Step) (s : Store) :
    (step.run s).2 = s ∨ ∃ request, (step.run s).2 = (s.run request).2 := by
  cases hrequest : step.client.request? step.operation with
  | none =>
      apply Or.inl
      exact backend_run_of_no_request hrequest ⟨step.registry, s⟩
  | some request =>
      apply Or.inr
      exact ⟨request, (Step.run_of_request hrequest s).1⟩

/-- An event keeps a store well formed. -/
theorem Event.wellFormed_after (h : s.WellFormed) (event : Event) : (event.after s).WellFormed := by
  cases event with
  | direct op => exact h.run op
  | byClient step =>
      change (step.run s).2.WellFormed
      rcases step.exists_request s with hsame | ⟨request, hafter⟩
      · rw [hsame]
        exact h
      · rw [hafter]
        exact h.run request

/-- Any sequence of events keeps a store well formed. -/
theorem wellFormed_run (h : s.WellFormed) (events : List Event) :
    (afterEvents s events).WellFormed := by
  induction events generalizing s with
  | nil => exact h
  | cons event rest ih => exact ih (event.wellFormed_after h)

/-! ## Reading policies -/

/-- The only bucket that a client does not find is one that nobody named. -/
theorem bucket_eq_error {c : Client} {bucket : Option String} {fault : Fault}
    (h : c.bucket bucket = .error fault) : fault = .bucketNotSet := by
  unfold Client.bucket at h
  split at h
  · cases h
  · cases h
    rfl

/-- A client reads the policy of its bucket and then parses it. -/
theorem start_policy {c : Client} {bucket : Option String} {name : String}
    (hname : c.bucket bucket = .ok name) (registry : Registry) (s : Store) :
    ((c.policy bucket).start (⟨registry, s⟩ : Service Store)).1 =
      (s.policy name).bind fun text => (Json.parse text).mapError .malformedPolicy := by
  have hread : (Service.onBackend (Backend.policy name)).start (⟨registry, s⟩ : Service Store) =
      (s.policy name, ⟨registry, s⟩) := rfl
  rw [policy, start_chosen_bind c hname, Task.start_bind, hread]
  cases s.policy name with
  | error fault => rfl
  | ok text => rfl

/-- A client of a well-formed store finds no malformed policy. -/
theorem kind_of_start_policy (h : s.WellFormed) (c : Client) (registry : Registry)
    (bucket : Option String) {fault : Fault}
    (hfails : ((c.policy bucket).start (⟨registry, s⟩ : Service Store)).1 = .error fault) :
    fault.kind ≠ .malformedPolicy := by
  intro hkind
  cases hname : c.bucket bucket with
  | error unnamed =>
      rw [policy, start_chosen_bind_of_error c hname] at hfails
      cases hfails
      rw [bucket_eq_error hname] at hkind
      cases hkind
  | ok name =>
      rw [start_policy hname] at hfails
      cases hpolicy : s.policy name with
      | error reason =>
          rw [hpolicy] at hfails
          cases hfails
          rcases Store.kind_of_policy_eq_error hpolicy with hother | hother
          · rw [hother] at hkind
            cases hkind
          · rw [hother] at hkind
            cases hkind
      | ok text =>
          obtain ⟨b, hb, htext⟩ := Store.policy_eq_ok_iff.mp hpolicy
          obtain ⟨value, hvalue⟩ := (h.buckets name b hb).policy text htext
          rw [hpolicy] at hfails
          change (Json.parse text).mapError Fault.malformedPolicy = .error fault at hfails
          rw [hvalue] at hfails
          cases hfails

/-! ## Every store -/

/-- **All that is in a store has passed its check.**  Whatever happens to an empty store, every
bucket has a name that passes, every key has 1 to 1024 octets, every object has the digest of its
body between quotes for its tag, and every policy is JSON; and no client that reads a policy is
told that it is malformed. -/
theorem wellFormed_afterEvents (config : Config) (events : List Event) :
    let s := afterEvents (.empty config) events
    (∀ name b, s.buckets.get? name = some b →
      checkBucketName name = .ok () ∧
      (∀ key o, b.objects.get? key = some o →
        checkObjectKey key = .ok () ∧ 1 ≤ key.utf8ByteSize ∧ key.utf8ByteSize ≤ 1024 ∧
          o.etag.toList = '"' :: (Hex.encode (Digest.Md5.digest o.body) ++ ['"'])) ∧
      ∀ text, b.policy = some text → ∃ value, Json.parse text = .ok value) ∧
    ∀ (c : Client) (registry : Registry) (bucket : Option String) (fault : Fault),
      ((c.policy bucket).start (⟨registry, s⟩ : Service Store)).1 = .error fault →
        fault.kind ≠ .malformedPolicy := by
  intro s
  have h : s.WellFormed := wellFormed_run (.empty config) events
  constructor
  · intro name b hbucket
    have hb : b.WellFormed := h.buckets name b hbucket
    refine ⟨h.names name b hbucket, ?_, hb.policy⟩
    intro key o ho
    have hkey : checkObjectKey key = .ok () := hb.keys key o ho
    obtain ⟨hlow, hhigh⟩ := checkObjectKey_eq_ok_iff.mp hkey
    refine ⟨hkey, hlow, hhigh, ?_⟩
    rw [hb.tags key o ho, entityTag, String.toList_ofList]
  · intro c registry bucket fault hfails
    exact kind_of_start_policy h c registry bucket hfails

end ObjectAccess.Client
