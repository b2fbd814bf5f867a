import ObjectAccess.Access.Operation
import ObjectAccess.Proofs.Access.Pages

/-!
# What clients ask of a store

An operation of a client changes the store by one request at most (`Client.request?`): it
chooses its bucket, and then it passes on one operation of the store or only reads.  The store
after it is the store after that request, and the operation succeeds just if the request does
(`run_of_request`); an operation without a request leaves the service alone, apart from the one
that replaces public paths (`run_of_no_request`).  So a run of clients is a run of the store.

No operation on a store goes on for ever (`run_ne_endless`), as the only loop, that of listing all
objects, has a last page.
-/

namespace ObjectAccess

set_option autoImplicit false

open ObjectAccess.Time ObjectAccess.Naming ObjectAccess.Policy

/-! ## Tasks that forward operations -/

namespace Task

variable {σ α β : Type}

/-- Whether a task of a service does to its store what an operation does, and succeeds just if
the operation does. -/
def Forwards (t : Task (Service Store) α) (op : Store.Operation) : Prop :=
  ∀ s, (t.start s).2 = { s with backend := (s.backend.run op).2 } ∧
    ((∃ x, (t.start s).1 = .ok x) ↔ s.backend.Succeeds op)

/-- A change of the store forwards the operation that makes the same change. -/
theorem forwards_change {f : Store → Except Fault (α × Store)} {op : Store.Operation}
    (answer : α → Store.Answer)
    (h : ∀ s : Store, s.perform op = (f s).map fun (x, after) => (answer x, after)) :
    (Service.onBackend (change f)).Forwards op := by
  intro s
  rw [start_onBackend, start_change, Store.Succeeds, Store.run, h s.backend]
  cases f s.backend with
  | error fault => simp [Except.map]
  | ok result => simp [Except.map]

theorem forwards_update {f : Store → Except Fault Store} {op : Store.Operation}
    (h : ∀ s : Store, s.perform op = (f s).map fun after => (.done, after)) :
    (Service.onBackend (update f)).Forwards op :=
  forwards_change (fun _ => .done) fun s => by rw [h s]; cases f s <;> rfl

/-- Nothing is lost by trying a check first without which the operation fails anyway. -/
theorem Forwards.checked {t : Task (Service Store) α} {op : Store.Operation}
    {check : Except Fault Unit} (h : t.Forwards op)
    (hfails : ∀ fault, check = .error fault → ∀ s : Store, s.perform op = .error fault) :
    (look (fun _ => check) >>= fun _ => t).Forwards op := by
  intro s
  cases hcheck : check with
  | ok u => exact h s
  | error fault =>
      have hperform := hfails fault hcheck s.backend
      rw [start_bind, start_look, Store.Succeeds, Store.run, hperform]
      simp

theorem Forwards.bind_pure {t : Task (Service Store) α} {op : Store.Operation}
    (h : t.Forwards op) (f : α → β) : (t >>= fun x => pure (f x)).Forwards op := by
  intro s
  obtain ⟨hafter, hsucceeds⟩ := h s
  rw [start_bind_pure]
  refine ⟨hafter, Iff.trans ?_ hsucceeds⟩
  cases (t.start s).1 <;> simp [Except.map]

end Task

/-! ## Operations of clients -/

namespace Client

variable (c : Client)

/-- Without a bucket every operation fails and changes nothing. -/
theorem start_onBucket_of_error {σ : Type} [Backend σ] {bucket : Option String} {fault : Fault}
    (h : c.bucket bucket = .error fault) (op : BucketOperation) (s : Service σ) :
    (c.onBucket bucket op).start s = (.error fault, s) := by
  cases op <;> exact Task.start_bind_of_error (start_chosen_bind_of_error c h _ s) _

/-- The operation of the store that an operation on a bucket passes on, unless it only reads. -/
def BucketOperation.request? (name : String) : BucketOperation → Option Store.Operation
  | .createBucket now => some (.createBucket now name)
  | .deleteBucket => some (.deleteBucket name)
  | .applyPermissions permissions =>
    (compile? permissions name).map fun document => .putPolicy name document.text
  | .deletePolicy => some (.deletePolicy name)
  | .put now path body => some (.put now name (trimSlashes path) body)
  | .upload made now id fileName body =>
    some (.put now name (trimSlashes (uploadKey fileName id made)) body)
  | .delete path => some (.delete name path)
  | .deleteMany paths => if paths.isEmpty then none else some (.deleteMany name paths)
  | .copy made now path targetBucket targetPath =>
    some (.copy now ⟨name, path⟩
      ⟨(named? targetBucket).getD name, targetPath.getD (copyKey path made)⟩)
  | .policy | .setPublic _ | .publicPaths | .isPublic _ | .get _ | .list _ | .listAll _
  | .url _ _ _ | .signedUrl _ _ _ | .plainUrl _ => none

/-- The operation of the store that an operation of a client passes on, if it finds a bucket and
does not only read. -/
def request? : Operation → Option Store.Operation
  | .onBucket bucket op => (c.bucket bucket).toOption.bind fun name => op.request? name
  | .listBuckets | .describe => none

variable {c} {bucket : Option String} {name : String}

theorem forwards_chosen {α : Type} {f : String → Task (Service Store) α} {op : Store.Operation}
    (hname : c.bucket bucket = .ok name) (h : (f name).Forwards op) :
    (c.chosen bucket >>= f).Forwards op := by
  intro s
  rw [start_chosen_bind c hname]
  exact h s

/-- A path that makes no key is refused by the client as it would be by the store. -/
theorem put_forwards (hname : c.bucket bucket = .ok name) (now : Instant) (path : String)
    (body : List UInt8) :
    (c.put now bucket path body : Task (Service Store) String).Forwards
      (.put now name (trimSlashes path) body) := by
  refine forwards_chosen hname (Task.Forwards.checked ?_ fun fault hcheck s => ?_)
  · exact (Task.forwards_change _ fun _ => rfl).bind_pure _
  · show (s.put now name (trimSlashes path) body).map _ = _
    rw [Store.put, hcheck]
    rfl

/-- A client that finds its bucket forwards the request of its operation. -/
theorem onBucket_forwards (hname : c.bucket bucket = .ok name) {op : BucketOperation}
    {request : Store.Operation} (h : op.request? name = some request) :
    (c.onBucket bucket op : Task (Service Store) Answer).Forwards request := by
  cases op with
  | createBucket now =>
      cases h
      exact (forwards_chosen hname (Task.forwards_update fun _ => rfl)).bind_pure _
  | deleteBucket =>
      cases h
      exact (forwards_chosen hname (Task.forwards_update fun _ => rfl)).bind_pure _
  | applyPermissions permissions =>
      obtain ⟨document, hdocument, rfl⟩ := Option.map_eq_some_iff.mp h
      refine (forwards_chosen hname ?_).bind_pure _
      rw [hdocument]
      exact (Task.forwards_update fun _ => rfl).bind_pure _
  | deletePolicy =>
      cases h
      exact (forwards_chosen hname (Task.forwards_update fun _ => rfl)).bind_pure _
  | put now path body =>
      cases h
      exact (put_forwards hname now path body).bind_pure _
  | upload made now id fileName body =>
      cases h
      exact (put_forwards hname now _ body).bind_pure _
  | delete path =>
      cases h
      exact (forwards_chosen hname (Task.forwards_update fun _ => rfl)).bind_pure _
  | deleteMany paths =>
      simp only [BucketOperation.request?] at h
      split at h
      · cases h
      · next hpaths =>
          cases h
          refine (forwards_chosen hname ?_).bind_pure _
          rw [if_neg hpaths]
          exact Task.forwards_update fun _ => rfl
  | copy made now path targetBucket targetPath =>
      cases h
      refine (forwards_chosen hname ?_).bind_pure _
      exact (Task.forwards_update fun _ => rfl).bind_pure _
  | policy | setPublic _ | publicPaths | isPublic _ | get _ | list _ | listAll _ | url _ _ _
  | signedUrl _ _ _ | plainUrl _ => cases h

/-! ## Reading -/

theorem keeps_chosen {α : Type} {f : String → Task (Service Store) α}
    (h : ∀ name, (f name).Keeps) : (c.chosen bucket >>= f).Keeps :=
  (Task.keeps_look _).bind h

theorem keeps_read {α : Type} (f : Store → Except Fault α) :
    (Service.onBackend (Task.look f)).Keeps := (Task.keeps_look f).onBackend

theorem keeps_listAll (path : String) :
    (c.listAll bucket path : Task (Service Store) (Option (List ObjectSummary))).Keeps := by
  refine keeps_chosen fun name s => ?_
  exact congrArg Prod.snd (Service.start_await_listPages (one_le_pageSize_listing name path) s)

theorem keeps_signedUrl (r : Resolver) (place : ObjectLocation) (expiresAt : Option Instant)
    (now : Instant) :
    (r.signedUrl place expiresAt now : Task (Service Store) ResolvedUrl).Keeps :=
  (Task.keeps_look _).bind fun _ => (keeps_read _).bind fun _ => Task.keeps_pure _

theorem keeps_url (r : Resolver) (place : ObjectLocation) (expiresAt : Option Instant)
    (now : Instant) : (r.url place expiresAt now : Task (Service Store) ResolvedUrl).Keeps := by
  refine (Task.keeps_look _).bind fun isPublic => ?_
  cases isPublic with
  | true => exact (keeps_read _).bind fun _ => Task.keeps_pure _
  | false =>
      refine (Task.keeps_look _).bind fun _ => ?_
      exact (keeps_read _).bind fun _ => Task.keeps_pure _

/-- Whether an operation on a bucket only reads. -/
def BucketOperation.reads : BucketOperation → Bool
  | .policy | .publicPaths | .isPublic _ | .get _ | .list _ | .listAll _ | .url _ _ _
  | .signedUrl _ _ _ | .plainUrl _ => true
  | _ => false

/-- An operation that only reads leaves the service as it was. -/
theorem keeps_onBucket {op : BucketOperation} (h : op.reads = true) :
    (c.onBucket bucket op : Task (Service Store) Answer).Keeps := by
  cases op with
  | policy =>
      refine (keeps_chosen fun name => ?_).bind fun _ => Task.keeps_pure _
      exact (keeps_read _).bind fun _ => Task.keeps_look _
  | publicPaths | isPublic path =>
      exact (keeps_chosen fun name => Task.keeps_look _).bind fun _ => Task.keeps_pure _
  | get path | plainUrl path =>
      exact (keeps_chosen fun name => keeps_read _).bind fun _ => Task.keeps_pure _
  | list path =>
      refine (keeps_chosen fun name => ?_).bind fun _ => Task.keeps_pure _
      exact (keeps_read _).bind fun _ => Task.keeps_pure _
  | listAll path =>
      refine (keeps_listAll path).bind fun found => ?_
      cases found <;> exact Task.keeps_pure _
  | url now path expiresAt =>
      exact (keeps_chosen fun name => keeps_url _ _ _ _).bind fun _ => Task.keeps_pure _
  | signedUrl now path expiresAt =>
      exact (keeps_chosen fun name => keeps_signedUrl _ _ _ _).bind fun _ => Task.keeps_pure _
  | _ => cases h

/-! ## Coming to an end -/

/-- Listing all objects of a bucket comes to an end, as its pages have a last one. -/
theorem listAll_ne_none (c : Client) (bucket : Option String) (path : String)
    (s : Service Store) : ((c.listAll bucket path).start s).1 ≠ .ok none := by
  intro h
  rw [listAll] at h
  cases hname : c.bucket bucket with
  | error fault =>
      rw [start_chosen_bind_of_error c hname] at h
      cases h
  | ok name =>
      have hpages := Service.start_await_listPages (one_le_pageSize_listing name path) s
      rw [start_chosen_bind c hname, ← listing, hpages] at h
      obtain ⟨objects, -, hobjects⟩ := map_eq_ok_iff.mp h
      cases hobjects

/-- A task that turns what it finds into an answer of some other kind has an end. -/
theorem start_ne_endless {α : Type} {answer : α → Answer} (h : ∀ x, answer x ≠ .endless)
    (t : Task (Service Store) α) (s : Service Store) :
    ((t >>= fun x => pure (answer x)).start s).1 ≠ .ok .endless := by
  intro hendless
  rw [Task.start_bind_pure] at hendless
  obtain ⟨x, -, hx⟩ := map_eq_ok_iff.mp hendless
  exact h x hx

theorem onBucket_ne_endless (c : Client) (bucket : Option String) (op : BucketOperation)
    (s : Service Store) : ((c.onBucket bucket op).start s).1 ≠ .ok .endless := by
  cases op with
  | listAll path =>
      intro h
      obtain ⟨found, hfound, hanswer⟩ := Task.exists_of_start_bind_eq_ok h
      cases found with
      | none => exact listAll_ne_none c bucket path s hfound
      | some objects => cases hanswer
  | _ =>
      refine start_ne_endless ?_ _ s
      rintro x ⟨⟩

/-- **Every operation comes to an end.**  A client of a store has an answer or a fault from every
operation, and none of them goes on for ever. -/
theorem run_ne_endless (c : Client) (op : Operation) (s : Service Store) :
    (c.run op s).1 ≠ .ok .endless := by
  cases op with
  | onBucket bucket op => exact onBucket_ne_endless c bucket op s
  | listBuckets =>
      refine start_ne_endless ?_ _ s
      rintro x ⟨⟩
  | describe => nofun

/-! ## Every operation -/

/-- **A request is passed on.**  An operation of a client that has a request does to the store what
the request does, and succeeds just if the request does. -/
theorem run_of_request {op : Operation} {request : Store.Operation}
    (h : c.request? op = some request) (s : Service Store) :
    (c.run op s).2 = { s with backend := (s.backend.run request).2 } ∧
      ((∃ answer, (c.run op s).1 = .ok answer) ↔ s.backend.Succeeds request) := by
  cases op with
  | onBucket bucket op =>
      obtain ⟨name, hname, hrequest⟩ := Option.bind_eq_some_iff.mp h
      cases hbucket : c.bucket bucket with
      | error fault =>
          rw [hbucket] at hname
          cases hname
      | ok found =>
          rw [hbucket] at hname
          cases hname
          exact onBucket_forwards hbucket hrequest s
  | listBuckets | describe => cases h

/-- Public paths are replaced without a fault. -/
theorem start_onBucket_setPublic (hname : c.bucket bucket = .ok name) (patterns : List String)
    (s : Service Store) :
    (c.onBucket bucket (.setPublic patterns)).start s =
      (.ok .done, { s with registry := s.registry.set name patterns }) := by
  have hstart : (c.setPublic bucket patterns).start s =
      (.ok (), { s with registry := s.registry.set name patterns }) := by
    rw [setPublic, start_chosen_bind c hname]
    rfl
  rw [onBucket, Task.start_bind_of_ok hstart]
  rfl

/-- An operation on a bucket that has no request leaves the service as it was, unless it replaces
the public paths: it reads, or it finds nothing to ask for. -/
theorem onBucket_of_no_request (hname : c.bucket bucket = .ok name) {op : BucketOperation}
    (h : op.request? name = none) (s : Service Store) :
    ((c.onBucket bucket op).start s).2 = s ∨ ∃ patterns, op = .setPublic patterns := by
  cases op with
  | setPublic patterns => exact Or.inr ⟨patterns, rfl⟩
  | applyPermissions permissions =>
      apply Or.inl
      have hcompile : compile? permissions name = none := Option.map_eq_none_iff.mp h
      have hstart : (c.applyPermissions bucket permissions).start s = (.ok .unchanged, s) := by
        rw [applyPermissions, start_chosen_bind c hname, hcompile]
        rfl
      rw [onBucket, Task.start_bind_of_ok hstart]
      rfl
  | deleteMany paths =>
      apply Or.inl
      have hpaths : paths.isEmpty = true := by simpa [BucketOperation.request?] using h
      have hstart : (c.deleteMany bucket paths).start s = (.ok (), s) := by
        rw [deleteMany, start_chosen_bind c hname, if_pos hpaths]
        rfl
      rw [onBucket, Task.start_bind_of_ok hstart]
      rfl
  | policy | publicPaths | isPublic _ | get _ | list _ | listAll _ | url _ _ _ | signedUrl _ _ _
  | plainUrl _ => exact Or.inl (keeps_onBucket rfl s)
  | createBucket _ | deleteBucket | deletePolicy | put _ _ _ | upload _ _ _ _ _ | delete _
  | copy _ _ _ _ _ => cases h

/-- An operation of a client that has no request leaves the service as it was, or it replaces the
public paths of a bucket that it finds. -/
theorem run_of_no_request {op : Operation} (h : c.request? op = none) (s : Service Store) :
    (c.run op s).2 = s ∨ ∃ bucket patterns name, op = .onBucket bucket (.setPublic patterns) ∧
      c.bucket bucket = .ok name ∧
      c.run op s = (.ok .done, { s with registry := s.registry.set name patterns }) := by
  cases op with
  | onBucket bucket op =>
      cases hname : c.bucket bucket with
      | error fault => exact Or.inl (congrArg Prod.snd (start_onBucket_of_error c hname op s))
      | ok name =>
          have hrequest : op.request? name = none := by
            simpa [request?, hname, Except.toOption] using h
          rcases onBucket_of_no_request hname hrequest s with hsame | ⟨patterns, rfl⟩
          · exact Or.inl hsame
          · exact Or.inr ⟨bucket, patterns, name, rfl, hname,
              start_onBucket_setPublic hname patterns s⟩
  | listBuckets | describe => exact Or.inl rfl

/-- An operation of a client that has no request leaves the store as it was. -/
theorem backend_run_of_no_request {op : Operation} (h : c.request? op = none)
    (s : Service Store) : (c.run op s).2.backend = s.backend := by
  rcases run_of_no_request h s with hsame | ⟨bucket, patterns, name, -, -, hrun⟩
  · rw [hsame]
  · rw [hrun]

end Client

end ObjectAccess
