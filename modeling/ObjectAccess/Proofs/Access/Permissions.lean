import ObjectAccess.Proofs.Access.WellFormed
import ObjectAccess.Proofs.Policy.Document

/-!
# Applying permissions

A client that applies permissions compiles them, writes the policy as JSON and has the store attach
the text, and the store parses whatever it is given before it takes it.  The two agree: the text of
a document is JSON, whatever the paths in it hold, so a policy is attached to every bucket that
exists (`run_applyPermissions`).  It can then be read again as text, as a document and as JSON, and
nothing else in the store has changed.
-/

namespace ObjectAccess

set_option autoImplicit false

open ObjectAccess.Policy

/-! ## Attaching a policy -/

namespace Store

/-- The text of a document is attached to a bucket that exists. -/
theorem putPolicy_text {s : Store} {name : String} {b : Bucket}
    (h : s.buckets.get? name = some b) (d : Document) :
    s.putPolicy name d.text = .ok (s.withBucket name { b with policy := some d.text }) := by
  rw [putPolicy, bucket_eq_ok_iff.mpr h]
  simp only [bind, Except.bind, d.parse_text]

theorem putPolicy_eq_noSuchBucket {s : Store} {name : String} (h : s.buckets.get? name = none)
    (text : String) : s.putPolicy name text = .error (.noSuchBucket name) := by
  rw [putPolicy, bucket, h]
  rfl

/-- Whether a store differs from another one only in that a document is attached to a bucket. -/
structure Attached (before : Store) (name : String) (d : Document) (after : Store) : Prop where
  /-- The text is read back octet for octet. -/
  policy : after.policy name = .ok d.text
  /-- All other buckets have the policies that they had. -/
  policies : ∀ other, other ≠ name → after.policy other = before.policy other
  /-- Nothing else about the bucket has changed. -/
  bucket : ∀ b, before.buckets.get? name = some b →
    after.buckets.get? name = some { b with policy := some d.text }
  /-- Nothing about all other buckets has changed. -/
  buckets : ∀ other, other ≠ name → after.buckets.get? other = before.buckets.get? other
  /-- Every object is where it was. -/
  objects : ∀ place, after.object? place = before.object? place
  config : after.config = before.config

theorem attached_withBucket {s : Store} {name : String} {b : Bucket}
    (h : s.buckets.get? name = some b) (d : Document) :
    s.Attached name d (s.withBucket name { b with policy := some d.text }) := by
  have hself : (s.withBucket name { b with policy := some d.text }).buckets.get? name =
      some { b with policy := some d.text } := Store.get?_withBucket ..
  have hothers : ∀ other, other ≠ name →
      (s.withBucket name { b with policy := some d.text }).buckets.get? other =
        s.buckets.get? other := fun _ hother => Directory.get?_insert_of_ne _ _ hother
  constructor
  · exact policy_eq_ok_iff.mpr ⟨_, hself, rfl⟩
  · intro other hother
    rw [Store.policy, Store.bucket, hothers other hother]
    rfl
  · intro found hfound
    rw [h] at hfound
    cases hfound
    exact hself
  · exact hothers
  · intro place
    apply object?_withBucket_of_get?
    intro hplace
    subst hplace
    exact (object?_of_get? h).symm
  · rfl

end Store

/-! ## Clients -/

namespace Client

/-- A client works on the bucket that is named. -/
theorem bucket_some (c : Client) {name : String} (h : name ≠ "") :
    c.bucket (some name) = .ok name := by
  have hnamed : named? (some name) = some name := by
    simp [named?, h]
  rw [bucket, hnamed]
  rfl

variable {c : Client} {bucket : Option String} {name : String} {permissions : Specification}

/-- Permissions that make no policy. -/
theorem run_applyPermissions_of_none (hname : c.bucket bucket = .ok name)
    (h : compile? permissions name = none) (s : Service Store) :
    c.run (.onBucket bucket (.applyPermissions permissions)) s = (.ok (.update .unchanged), s) := by
  have hstart : (c.applyPermissions bucket permissions).start s = (.ok .unchanged, s) := by
    rw [applyPermissions, start_chosen_bind c hname, h]
    rfl
  exact Task.start_bind_of_ok hstart _

/-- The request that attaches a policy. -/
theorem start_putPolicy (s : Service Store) (name text : String) :
    (Service.onBackend (Backend.putPolicy name text)).start s =
      match s.backend.putPolicy name text with
      | .ok after => (.ok (), ⟨s.registry, after⟩)
      | .error fault => (.error fault, s) := by
  have hrequest : (Backend.putPolicy name text : Task Store Unit).start s.backend =
      (Task.update fun t : Store => t.putPolicy name text).start s.backend := rfl
  rw [Task.start_onBackend, hrequest, Task.update, Task.start_change]
  cases s.backend.putPolicy name text <;> rfl

variable {d : Document} {s : Service Store}

/-- Permissions for a bucket that does not exist. -/
theorem run_applyPermissions_of_absent (hname : c.bucket bucket = .ok name)
    (h : compile? permissions name = some d) (hbucket : s.backend.buckets.get? name = none) :
    c.run (.onBucket bucket (.applyPermissions permissions)) s =
      (.error (.noSuchBucket name), s) := by
  have hput : (Service.onBackend (Backend.putPolicy name d.text)).start s =
      (.error (.noSuchBucket name), s) := by
    rw [start_putPolicy, Store.putPolicy_eq_noSuchBucket hbucket]
  have hstart : (c.applyPermissions bucket permissions).start s =
      (.error (.noSuchBucket name), s) := by
    rw [applyPermissions, start_chosen_bind c hname, h]
    exact Task.start_bind_of_error hput _
  exact Task.start_bind_of_error hstart _

/-- Permissions that make a policy for a bucket that exists. -/
theorem run_applyPermissions_of_exists {b : Bucket} (hname : c.bucket bucket = .ok name)
    (h : compile? permissions name = some d) (hbucket : s.backend.buckets.get? name = some b) :
    c.run (.onBucket bucket (.applyPermissions permissions)) s =
      (.ok (.update (.applied d)),
        ⟨s.registry, s.backend.withBucket name { b with policy := some d.text }⟩) := by
  have hput : (Service.onBackend (Backend.putPolicy name d.text)).start s =
      (.ok (), ⟨s.registry, s.backend.withBucket name { b with policy := some d.text }⟩) := by
    rw [start_putPolicy, Store.putPolicy_text hbucket]
  have hstart : (c.applyPermissions bucket permissions).start s =
      (.ok (.applied d),
        ⟨s.registry, s.backend.withBucket name { b with policy := some d.text }⟩) := by
    rw [applyPermissions, start_chosen_bind c hname, h]
    exact Task.start_bind_of_ok hput _
  exact Task.start_bind_of_ok hstart _

/-- A client reads a document that is attached to its bucket as JSON. -/
theorem run_policy_of_text {registry : Registry} {t : Store} (hname : c.bucket bucket = .ok name)
    (h : t.policy name = .ok d.text) :
    c.run (.onBucket bucket .policy) ⟨registry, t⟩ =
      (.ok (.policy d.toJson.sorted), ⟨registry, t⟩) := by
  have hkeeps : (c.policy bucket : Task (Service Store) Json.Value).Keeps :=
    keeps_chosen fun _ => (keeps_read _).bind fun _ => Task.keeps_look _
  have hanswer : ((c.policy bucket).start (⟨registry, t⟩ : Service Store)).1 =
      .ok d.toJson.sorted := by
    rw [start_policy hname, h, Except.bind, d.parse_text]
    rfl
  exact Task.start_bind_of_ok (Prod.ext hanswer (hkeeps ⟨registry, t⟩)) _

/-- **Permissions are applied to every bucket that exists, whatever their paths hold.**  They are
answered to change nothing if they make no policy, and fail if they make one for a bucket that does
not exist.  Otherwise the policy is attached: its text is what the store answers from then on, it is
read as the document that was compiled, every client reads it as JSON, and nothing else in the store
has changed.  No policy is ever refused as malformed. -/
theorem run_applyPermissions (c : Client) (permissions : Specification) (s : Service Store)
    {name : String} (hname : name ≠ "") :
    let apply := Operation.onBucket (some name) (.applyPermissions permissions)
    (compile? permissions name = none → c.run apply s = (.ok (.update .unchanged), s)) ∧
    (∀ d, compile? permissions name = some d →
      (c.run apply s = (.error (.noSuchBucket name), s) ↔ s.backend.bucketExists name = false) ∧
      (s.backend.bucketExists name = true → ∃ after,
        c.run apply s = (.ok (.update (.applied d)), ⟨s.registry, after⟩) ∧
        s.backend.Attached name d after ∧ Document.ofText d.text = .ok d ∧
        ∀ (reader : Client) (registry : Registry),
          reader.run (.onBucket (some name) .policy) ⟨registry, after⟩ =
            (.ok (.policy d.toJson.sorted), ⟨registry, after⟩))) ∧
    ∀ fault, (c.run apply s).1 = .error fault → fault.kind ≠ .malformedPolicy := by
  intro apply
  have hbucket := c.bucket_some hname
  refine ⟨fun hcompile => run_applyPermissions_of_none hbucket hcompile s, ?_, ?_⟩
  · intro d hcompile
    constructor
    · constructor
      · intro hfails
        rw [Store.bucketExists_eq_false_iff]
        -- Were there a bucket, the answer would be the document.
        by_contra hexists
        obtain ⟨b, hb⟩ := Option.ne_none_iff_exists'.mp hexists
        have happlied := run_applyPermissions_of_exists hbucket hcompile hb
        rw [hfails] at happlied
        cases congrArg Prod.fst happlied
      · intro habsent
        rw [Store.bucketExists_eq_false_iff] at habsent
        exact run_applyPermissions_of_absent hbucket hcompile habsent
    · intro hexists
      obtain ⟨b, hb⟩ := Store.bucketExists_iff.mp hexists
      have hattached := Store.attached_withBucket hb d
      refine ⟨_, run_applyPermissions_of_exists hbucket hcompile hb, hattached,
        d.ofText_compactText, ?_⟩
      intro reader registry
      exact run_policy_of_text (reader.bucket_some hname) hattached.policy
  · intro fault hfails hkind
    cases hcompile : compile? permissions name with
    | none =>
        rw [run_applyPermissions_of_none hbucket hcompile s] at hfails
        cases hfails
    | some d =>
        cases hb : s.backend.buckets.get? name with
        | none =>
            rw [run_applyPermissions_of_absent hbucket hcompile hb] at hfails
            cases hfails
            cases hkind
        | some b =>
            rw [run_applyPermissions_of_exists hbucket hcompile hb] at hfails
            cases hfails

/-- The theorem at a path with a quote and a line break, in a store with one bucket. -/
theorem run_applyPermissions_awkwardPath :
    let c : Client := ⟨"", .standard⟩
    let permissions := Specification.empty.insert .read ["a\"b\n"]
    let s : Service Store := ⟨.empty, ((Store.empty .standard).run (.createBucket .epoch "main")).2⟩
    "main" ≠ "" ∧ ∃ d after, compile? permissions "main" = some d ∧
      c.run (.onBucket (some "main") (.applyPermissions permissions)) s =
        (.ok (.update (.applied d)), ⟨s.registry, after⟩) ∧
      s.backend.Attached "main" d after := by
  intro c permissions s
  have hname : "main" ≠ "" := by decide
  have hexists : s.backend.bucketExists "main" = true := rfl
  obtain ⟨d, hcompile⟩ : ∃ d, compile? permissions "main" = some d := ⟨_, rfl⟩
  obtain ⟨-, happlied, -⟩ := run_applyPermissions c permissions s hname
  obtain ⟨after, hrun, hattached, -⟩ := (happlied d hcompile).2 hexists
  exact ⟨hname, d, after, hcompile, hrun, hattached⟩

end Client

end ObjectAccess
