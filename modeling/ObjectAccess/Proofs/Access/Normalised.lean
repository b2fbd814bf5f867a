import Mathlib.Data.List.Induction
import ObjectAccess.Proofs.Access.Requests
import ObjectAccess.Proofs.Naming.ObjectKey
import ObjectAccess.Proofs.Store.History

/-!
# Keys that clients write

Clients that share a store write to it in four ways: they store an object at a path or under a
key made for it, and they copy an object to a given path or to a key made for it.  Paths are
trimmed before an object is stored, and a key made for a copy is normalised if the key of its
source is.  The path given for a copy is taken as it is, and it is the only way in which a key
that starts or ends with a slash comes about: all keys are normalised all along a run just if
no copy of the run that succeeds was given such a path (`keysNormalised_iff`).
-/

namespace ObjectAccess.Client

set_option autoImplicit false

open ObjectAccess.Time ObjectAccess.Naming

/-! ## Steps of clients that share a store -/

/-- A client at work: the public paths that it sees, and what it does. -/
structure Step where
  registry : Registry
  client : Client
  operation : Operation

/-- What a step on a store answers, and the store after it. -/
def Step.run (step : Step) (s : Store) : Except Fault Answer × Store :=
  let (answer, after) := step.client.run step.operation ⟨step.registry, s⟩
  (answer, after.backend)

/-- The store after the steps of clients that share it. -/
def storeAfter (s : Store) (steps : List Step) : Store :=
  steps.foldl (fun s step => (step.run s).2) s

theorem storeAfter_concat (s : Store) (steps : List Step) (step : Step) :
    storeAfter s (steps ++ [step]) = (step.run (storeAfter s steps)).2 := List.foldl_append

/-- Whether a step copies an object to a path that it was given. -/
def Step.CopiesTo (step : Step) (s : Store) (path : String) : Prop :=
  (∃ bucket made now source targetBucket,
    step.operation = .onBucket bucket (.copy made now source targetBucket (some path))) ∧
  ∃ answer, (step.run s).1 = .ok answer

/-! ## Requests that write -/

variable {c : Client} {op : Operation} {now : Instant}

/-- A request of a client that stores an object has a trimmed path for its key. -/
theorem key_of_request_put {bucket key : String} {body : List UInt8}
    (h : c.request? op = some (.put now bucket key body)) : ∃ path, key = trimSlashes path := by
  cases op with
  | onBucket name op =>
      obtain ⟨found, -, hrequest⟩ := Option.bind_eq_some_iff.mp h
      cases op with
      | put _ path _ =>
          cases hrequest
          exact ⟨path, rfl⟩
      | upload _ _ _ _ _ =>
          cases hrequest
          exact ⟨_, rfl⟩
      | applyPermissions permissions =>
          obtain ⟨document, -, hpolicy⟩ := Option.map_eq_some_iff.mp hrequest
          cases hpolicy
      | deleteMany paths =>
          simp only [BucketOperation.request?] at hrequest
          split at hrequest <;> cases hrequest
      | _ => cases hrequest
  | listBuckets | describe => cases h

/-- A request of a client that copies an object has the given path for the key of the copy, or the
key made for it. -/
theorem key_of_request_copy {source target : ObjectLocation}
    (h : c.request? op = some (.copy now source target)) :
    ∃ bucket made targetBucket targetPath,
      op = .onBucket bucket (.copy made now source.key targetBucket targetPath) ∧
        target.key = targetPath.getD (copyKey source.key made) := by
  cases op with
  | onBucket name op =>
      obtain ⟨found, -, hrequest⟩ := Option.bind_eq_some_iff.mp h
      cases op with
      | copy made _ path targetBucket targetPath =>
          cases hrequest
          exact ⟨name, made, targetBucket, targetPath, rfl, rfl⟩
      | applyPermissions permissions =>
          obtain ⟨document, -, hpolicy⟩ := Option.map_eq_some_iff.mp hrequest
          cases hpolicy
      | deleteMany paths =>
          simp only [BucketOperation.request?] at hrequest
          split at hrequest <;> cases hrequest
      | _ => cases hrequest
  | listBuckets | describe => cases h

/-! ## One step -/

/-- Whether all keys of a store are normalised. -/
def KeysNormalised (s : Store) : Prop :=
  ∀ place o, s.object? place = some o → IsNormalised place.key

variable {step : Step} {s : Store}

/-- The store after a step with a request is that after the request, which succeeds just if the
step does. -/
theorem Step.run_of_request {request : Store.Operation}
    (h : step.client.request? step.operation = some request) (s : Store) :
    (step.run s).2 = (s.run request).2 ∧
      ((∃ answer, (step.run s).1 = .ok answer) ↔ s.Succeeds request) := by
  obtain ⟨hafter, hsucceeds⟩ := Client.run_of_request h ⟨step.registry, s⟩
  exact ⟨congrArg Service.backend hafter, hsucceeds⟩

/-- A step writes normalised keys if it copies to no other path. -/
theorem isNormalised_of_writes {request : Store.Operation} {place : ObjectLocation}
    {o : StoredObject} (hkeys : KeysNormalised s)
    (hcopies : ∀ path, step.CopiesTo s path → IsNormalised path)
    (hrequest : step.client.request? step.operation = some request)
    (hwrites : s.Writes request place o) : IsNormalised place.key := by
  cases hwrites with
  | put _ =>
      obtain ⟨path, rfl⟩ := key_of_request_put hrequest
      exact isNormalised_trimSlashes path
  | @copy now source _ body hsucceeds hbody =>
      obtain ⟨bucket, made, targetBucket, targetPath, hop, hkey⟩ := key_of_request_copy hrequest
      have hanswer := (Step.run_of_request hrequest s).2.mpr hsucceeds
      rw [hkey]
      cases targetPath with
      | some path =>
          exact hcopies path ⟨⟨bucket, made, now, source.key, targetBucket, hop⟩, hanswer⟩
      | none =>
          obtain ⟨found, hfound, -⟩ := Store.get_eq_ok_iff.mp hbody
          exact isNormalised_copyKey (hkeys _ found hfound) made

/-- A step keeps all keys normalised if it copies to no other path. -/
theorem keysNormalised_run (hkeys : KeysNormalised s)
    (hcopies : ∀ path, step.CopiesTo s path → IsNormalised path) :
    KeysNormalised (step.run s).2 := by
  intro place o ho
  cases hrequest : step.client.request? step.operation with
  | none =>
      have hsame : (step.run s).2 = s := backend_run_of_no_request hrequest ⟨step.registry, s⟩
      rw [hsame] at ho
      exact hkeys place o ho
  | some request =>
      rw [(Step.run_of_request hrequest s).1] at ho
      by_cases htouches : s.Touches request place
      · rcases htouches with ⟨written, hwrites⟩ | hremoves
        · exact isNormalised_of_writes hkeys hcopies hrequest hwrites
        · rw [Store.object?_run_of_removes hremoves] at ho
          cases ho
      · rw [Store.object?_run_of_not_touches htouches] at ho
        exact hkeys place o ho

/-- A copy to a given path puts an object under that path. -/
theorem exists_object_of_copiesTo {path : String} (h : step.CopiesTo s path) :
    ∃ bucket o, (step.run s).2.object? ⟨bucket, path⟩ = some o := by
  obtain ⟨⟨bucket, made, now, source, targetBucket, hop⟩, answer, hanswer⟩ := h
  cases hname : step.client.bucket bucket with
  | error fault =>
      have hstart := start_onBucket_of_error step.client hname
        (.copy made now source targetBucket (some path)) (⟨step.registry, s⟩ : Service Store)
      have hfails : (step.run s).1 = .error fault := by
        show (step.client.run step.operation ⟨step.registry, s⟩).1 = .error fault
        rw [hop]
        exact congrArg Prod.fst hstart
      rw [hfails] at hanswer
      cases hanswer
  | ok name =>
      have hrequest : step.client.request? step.operation =
          some (.copy now ⟨name, source⟩ ⟨(named? targetBucket).getD name, path⟩) := by
        rw [hop, request?, hname]
        rfl
      obtain ⟨hafter, hsucceeds⟩ := Step.run_of_request hrequest s
      obtain ⟨o, hwrites⟩ := Store.exists_writes_of_copy (hsucceeds.mp ⟨answer, hanswer⟩)
      exact ⟨_, o, hafter ▸ Store.object?_run_of_writes hwrites⟩

/-! ## Runs -/

/-- **Keys are normalised just if the paths given for copies are.**  In a run of clients from an
empty store, all keys are normalised at all times just if every path that was given for a copy,
and that an object was copied to, neither starts nor ends with a slash. -/
theorem keysNormalised_iff (config : Config) (steps : List Step) :
    (∀ before, before <+: steps → KeysNormalised (storeAfter (.empty config) before)) ↔
      ∀ before step path, before ++ [step] <+: steps →
        step.CopiesTo (storeAfter (.empty config) before) path → IsNormalised path := by
  constructor
  · intro hkeys before step path hstart hcopies
    have hafter := hkeys _ hstart
    rw [storeAfter_concat] at hafter
    obtain ⟨bucket, o, ho⟩ := exists_object_of_copiesTo hcopies
    exact hafter _ o ho
  · intro hcopies before hstart
    induction before using List.reverseRecOn with
    | nil =>
        intro place o ho
        cases ho
    | append_singleton before step ih =>
        have hbefore : before <+: steps := (List.prefix_append before [step]).trans hstart
        rw [storeAfter_concat]
        exact keysNormalised_run (ih hbefore) fun path => hcopies before step path hstart

/-! ## A key with slashes -/

/-- A client that makes a bucket, stores an object, and copies it to a path with slashes at its
ends. -/
def slashedCopy : List Step :=
  [⟨.empty, ⟨"main", .standard⟩, .onBucket none (.createBucket .epoch)⟩,
    ⟨.empty, ⟨"main", .standard⟩, .onBucket none (.put .epoch "/a/" [120])⟩,
    ⟨.empty, ⟨"main", .standard⟩, .onBucket none (.copy .epoch .epoch "a" none (some "/b/"))⟩]

theorem object?_slashedCopy :
    (storeAfter (.empty .standard) slashedCopy).object? ⟨"main", "/b/"⟩ =
      some (.ofBody [120] .epoch) := rfl

/-- The theorem at that run: the keys are not normalised at all times. -/
theorem not_keysNormalised_slashedCopy :
    ¬∀ before, before <+: slashedCopy →
      KeysNormalised (storeAfter (.empty .standard) before) := by
  rw [keysNormalised_iff]
  intro hcopies
  have hnormalised := hcopies (slashedCopy.take 2) _ "/b/" (List.prefix_refl slashedCopy)
    ⟨⟨none, .epoch, .epoch, "a", none, rfl⟩, ⟨_, rfl⟩⟩
  exact absurd hnormalised (by decide)

/-- The keys that clients write are not always normalised. -/
theorem exists_key_with_slashes :
    ¬∀ (config : Config) (steps : List Step),
      KeysNormalised (storeAfter (.empty config) steps) := by
  intro hall
  exact absurd (hall .standard slashedCopy _ _ object?_slashedCopy) (by decide)

end ObjectAccess.Client
