import ObjectAccess.Proofs.Store.Stepwise

/-!
# Failures and readings leave everything as it was

Clients share a store and a registry of public paths.  An operation on either of them happens
as a whole or not at all: if it fails, the service is what it was before, with all buckets,
policies, objects and public paths (`service_unchanged`).  This is not a matter of course, as a
task keeps what it has done when a later step of it fails.  It holds of the store because no step
of an operation fails after a write, and of a client because it makes at most one request, and
nothing that can fail comes after that.

Operations that only read leave the service as it was whatever they answer, and so does
applying permissions that make no policy.
-/

namespace ObjectAccess

set_option autoImplicit false

open ObjectAccess.Policy

/-! ## Operations of the store -/

namespace Store

theorem run_of_not_succeeds {s : Store} {op : Operation} (h : ¬s.Succeeds op) :
    (s.run op).2 = s := by
  rcases change_run s op with ⟨hsucceeds, -⟩ | ⟨-, hsame⟩
  · exact absurd hsucceeds h
  · exact hsame

/-- An operation that reads makes no change. -/
theorem eq_of_change_of_reads {s t : Store} {op : Operation} (h : s.Change op t)
    (hreads : op.reads = true) : t = s := by
  cases h with
  | read _ => rfl
  | _ => cases hreads

theorem run_of_reads {s : Store} {op : Operation} (hreads : op.reads = true) :
    (s.run op).2 = s := by
  rcases change_run s op with ⟨-, hchange⟩ | ⟨-, hsame⟩
  · exact eq_of_change_of_reads hchange hreads
  · exact hsame

/-- An operation that answers a fault has not succeeded. -/
theorem not_succeeds_of_error {s : Store} {op : Operation} {fault : Fault}
    (h : (s.run op).1 = .error fault) : ¬s.Succeeds op := by
  rintro ⟨answer, hanswer⟩
  rw [h] at hanswer
  cases hanswer

end Store

/-! ## Operations of clients -/

namespace Client

/-- Whether an operation only reads. -/
def Operation.reads : Operation → Bool
  | .onBucket _ op => op.reads
  | .listBuckets | .describe => true

variable {c : Client} {op : Operation} {s : Service Store}

theorem run_of_reads (hreads : op.reads = true) (s : Service Store) : (c.run op s).2 = s := by
  cases op with
  | onBucket bucket op => exact keeps_onBucket hreads s
  | listBuckets | describe => rfl

/-- A client whose operation fails has changed nothing: its request has failed, or it has made
none, and then the public paths are as they were too. -/
theorem run_of_error {fault : Fault} (h : (c.run op s).1 = .error fault) : (c.run op s).2 = s := by
  cases hrequest : c.request? op with
  | some request =>
      obtain ⟨hafter, hsucceeds⟩ := run_of_request hrequest s
      have hfails : ¬s.backend.Succeeds request := by
        intro hrequest
        obtain ⟨answer, hanswer⟩ := hsucceeds.mpr hrequest
        rw [h] at hanswer
        cases hanswer
      rw [hafter, Store.run_of_not_succeeds hfails]
  | none =>
      rcases run_of_no_request hrequest s with hsame | ⟨bucket, patterns, name, -, -, hrun⟩
      · exact hsame
      · rw [hrun] at h
        cases h

/-- Permissions that are answered to change nothing have made no policy, so nothing was asked
for. -/
theorem run_of_unchanged {bucket : Option String} {permissions : Specification}
    (h : (c.run (.onBucket bucket (.applyPermissions permissions)) s).1 =
      .ok (.update .unchanged)) :
    (c.run (.onBucket bucket (.applyPermissions permissions)) s).2 = s := by
  cases hname : c.bucket bucket with
  | error fault => exact congrArg Prod.snd (start_onBucket_of_error c hname _ s)
  | ok name =>
      cases hcompile : compile? permissions name with
      | none =>
          have hrequest : (BucketOperation.applyPermissions permissions).request? name = none :=
            Option.map_eq_none_iff.mpr hcompile
          rcases onBucket_of_no_request hname hrequest s with hsame | ⟨patterns, hpatterns⟩
          · exact hsame
          · cases hpatterns
      | some document =>
          exfalso
          change ((c.onBucket bucket (.applyPermissions permissions)).start s).1 = _ at h
          rw [onBucket, Task.start_bind, applyPermissions, start_chosen_bind c hname, hcompile,
            Task.start_bind] at h
          cases hput : (Service.onBackend (Backend.putPolicy name document.text)).start s with
          | mk outcome after =>
              cases outcome with
              | ok u => simp [hput] at h
              | error fault => simp [hput] at h

end Client

/-! ## Every operation -/

open Client in
/-- **Nothing changes unless an operation that writes succeeds.**  In every state of a store and a
registry that clients share, an operation of the store, done step by step or at once, or of a
client that fails leaves all of it as it was, and so does one that reads, whatever it answers; so
does a client that is told that its permissions make no policy, and so does the resolver when it
makes a URL. -/
theorem service_unchanged (s : Service Store) :
    (∀ op : Store.Operation,
      op.reads = true ∨ (∃ fault, (op.steps.start s.backend).1 = .error fault) →
        (op.steps.start s.backend).2 = s.backend ∧ (s.backend.run op).2 = s.backend) ∧
    (∀ (c : Client) (op : Operation),
      op.reads = true ∨ (∃ fault, (c.run op s).1 = .error fault) → (c.run op s).2 = s) ∧
    (∀ (c : Client) (bucket : Option String) (permissions : Specification),
      (c.run (.onBucket bucket (.applyPermissions permissions)) s).1 = .ok (.update .unchanged) →
        (c.run (.onBucket bucket (.applyPermissions permissions)) s).2 = s) ∧
    ∀ (r : Resolver) (place : ObjectLocation) (expiresAt : Option Time.Instant)
      (now : Time.Instant),
      ((r.url place expiresAt now).start s).2 = s ∧
        ((r.signedUrl place expiresAt now).start s).2 = s := by
  refine ⟨?_, ?_, fun c bucket permissions => run_of_unchanged, ?_⟩
  · intro op h
    rw [Store.start_steps] at *
    rw [and_self]
    rcases h with hreads | ⟨fault, hfault⟩
    · exact Store.run_of_reads hreads
    · exact Store.run_of_not_succeeds (Store.not_succeeds_of_error hfault)
  · intro c op h
    rcases h with hreads | ⟨fault, hfault⟩
    · exact run_of_reads hreads s
    · exact run_of_error hfault
  · intro r place expiresAt now
    exact ⟨keeps_url r place expiresAt now s, keeps_signedUrl r place expiresAt now s⟩

/-- A service with one public bucket and one object in it. -/
def oneObject : Service Store where
  registry := .ofList [("main", ["*"])]
  backend :=
    (((Store.empty .standard).run (.createBucket .epoch "main")).2.run
      (.put .epoch "main" "a" [120])).2

/-- The theorem at a copy of an object that is not there, by a client with a default bucket. -/
theorem service_unchanged_missingSource :
    let c : Client := ⟨"main", .standard⟩
    let copy := Client.Operation.onBucket none (.copy .epoch .epoch "b" none (some "a"))
    (c.run copy oneObject).1 = .error (.noSuchKey "b") ∧ (c.run copy oneObject).2 = oneObject := by
  intro c copy
  have hfault : (c.run copy oneObject).1 = .error (.noSuchKey "b") := rfl
  exact ⟨hfault, (service_unchanged oneObject).2.1 c copy (Or.inr ⟨_, hfault⟩)⟩

end ObjectAccess
