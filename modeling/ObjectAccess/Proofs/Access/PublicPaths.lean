import ObjectAccess.Proofs.Access.Resolver
import ObjectAccess.Proofs.Access.WellFormed
import ObjectAccess.Proofs.Text.Pieces

/-!
# Only public paths have plain URLs

A registry of public paths is changed by calls that set or remove the list of a bucket; clients
that share it set lists too.  The list in force for a bucket is the one most recently set for it
and not removed since, whatever was done to other buckets and to the store in between
(`Registry.get?_calls`, `registry_afterActs`).

The resolver gives a plain URL for a path just if the list in force for its bucket has a pattern
that covers the path: the star alone, or a text that occurs in the path.  Otherwise it answers as
if a signed URL had been asked for (`url_free_iff`).
-/

namespace ObjectAccess

set_option autoImplicit false

open ObjectAccess.Time

/-! ## Patterns -/

/-- A pattern covers a path just if it is the star or stands between two parts of the path. -/
theorem covers_iff {pattern path : String} :
    covers pattern path = true ↔ pattern = "*" ∨ ∃ x y, path = x ++ pattern ++ y := by
  rw [covers, Bool.or_eq_true, decide_eq_true_eq, Text.occursIn_iff]
  apply or_congr_right
  constructor
  · rintro ⟨x, y, h⟩
    refine ⟨String.ofList x, String.ofList y, ?_⟩
    rw [← String.toList_inj, String.toList_append, String.toList_append, String.toList_ofList,
      String.toList_ofList, h]
  · rintro ⟨x, y, rfl⟩
    refine ⟨x.toList, y.toList, ?_⟩
    rw [String.toList_append, String.toList_append]

/-! ## Calls on a registry -/

namespace Registry

/-- A change of a registry. -/
inductive Call where
  | set (bucket : String) (patterns : List String)
  | remove (bucket : String)

/-- The bucket whose list is changed. -/
def Call.bucket : Call → String
  | .set bucket _ => bucket
  | .remove bucket => bucket

/-- The registry after a call. -/
def call (r : Registry) : Call → Registry
  | .set bucket patterns => r.set bucket patterns
  | .remove bucket => r.remove bucket

/-- Whether a list is the one most recently set for a bucket, and no later call has changed or
removed it. -/
def InForce (calls : List Call) (bucket : String) (patterns : List String) : Prop :=
  ∃ before after, calls = before ++ .set bucket patterns :: after ∧
    ∀ call ∈ after, call.bucket ≠ bucket

/-- Whether the list in force for a bucket has a pattern that is the star or stands in a path. -/
def Opens (calls : List Call) (place : ObjectLocation) : Prop :=
  ∃ patterns, InForce calls place.bucket patterns ∧
    ∃ q ∈ patterns, q = "*" ∨ ∃ x y, place.key = x ++ q ++ y

variable {calls : List Call} {last : Call} {bucket : String} {patterns : List String}

theorem not_inForce_nil : ¬InForce [] bucket patterns := by
  rintro ⟨before, after, h, -⟩
  exact absurd h.symm (List.append_ne_nil_of_right_ne_nil _ (List.cons_ne_nil _ _))

/-- The last call decides about its own bucket and leaves the others to the calls before it. -/
theorem inForce_concat : InForce (calls ++ [last]) bucket patterns ↔
    last = .set bucket patterns ∨ (last.bucket ≠ bucket ∧ InForce calls bucket patterns) := by
  constructor
  · rintro ⟨before, after, h, hafter⟩
    rcases List.eq_nil_or_concat' after with rfl | ⟨others, final, rfl⟩
    · obtain ⟨-, hlast⟩ := List.append_inj' h rfl
      exact Or.inl (List.singleton_inj.mp hlast)
    · rw [← List.cons_append, ← List.append_assoc] at h
      obtain ⟨hcalls, hlast⟩ := List.append_inj' h rfl
      obtain rfl : last = final := List.singleton_inj.mp hlast
      refine Or.inr ⟨hafter last (by simp), before, others, hcalls, ?_⟩
      intro call hcall
      exact hafter call (List.mem_append_left _ hcall)
  · rintro (rfl | ⟨hlast, before, after, rfl, hafter⟩)
    · exact ⟨calls, [], rfl, by simp⟩
    · refine ⟨before, after ++ [last], by simp, ?_⟩
      intro call hcall
      rcases List.mem_append.mp hcall with hcall | hcall
      · exact hafter call hcall
      · rw [List.mem_singleton.mp hcall]
        exact hlast

/-- A call for another bucket leaves the list of a bucket as it is. -/
theorem get?_call_of_ne (r : Registry) (h : last.bucket ≠ bucket) :
    (r.call last).patterns.get? bucket = r.patterns.get? bucket := by
  cases last with
  | set other _ => exact Directory.get?_insert_of_ne _ _ (Ne.symm h)
  | remove other => exact Directory.get?_erase_of_ne _ (Ne.symm h)

/-- **The list of a bucket is the one in force**: after any calls, the registry has a list for a
bucket just if that list is in force. -/
theorem get?_calls (calls : List Call) (bucket : String) (patterns : List String) :
    (calls.foldl call empty).patterns.get? bucket = some patterns ↔
      InForce calls bucket patterns := by
  induction calls using List.reverseRecOn with
  | nil => exact ⟨nofun, fun h => absurd h not_inForce_nil⟩
  | append_singleton calls last ih =>
      rw [List.foldl_concat, inForce_concat, ← ih]
      by_cases hbucket : last.bucket = bucket
      · subst hbucket
        cases last with
        | set name list =>
            have hget : ((calls.foldl call empty).call (.set name list)).patterns.get? name =
                some list := Directory.get?_insert_self _ _ _
            simp only [Call.bucket, hget, Option.some.injEq, Call.set.injEq, true_and, ne_eq,
              not_true_eq_false, false_and, or_false]
        | remove name =>
            have hget : ((calls.foldl call empty).call (.remove name)).patterns.get? name =
                none := Directory.get?_erase_self _ _
            simp [Call.bucket, hget]
      · rw [get?_call_of_ne _ hbucket]
        constructor
        · intro h
          exact Or.inr ⟨hbucket, h⟩
        · rintro (rfl | ⟨-, h⟩)
          · exact absurd rfl hbucket
          · exact h

/-- A registry with given lists is one in which they were set one after the other. -/
theorem ofList_eq (entries : List (String × List String)) :
    ofList entries = (entries.map fun e => Call.set e.1 e.2).foldl call empty := by
  have hfold : ∀ d : Directory (List String),
      (⟨entries.foldl (fun d e => d.insert e.1 e.2) d⟩ : Registry) =
        (entries.map fun e => Call.set e.1 e.2).foldl call ⟨d⟩ := by
    induction entries with
    | nil => exact fun _ => rfl
    | cons e rest ih => exact fun d => ih (d.insert e.1 e.2)
  exact hfold Directory.empty

/-- A path is public just if the list of its bucket has a pattern that covers it. -/
theorem isPublic_iff {r : Registry} {path : String} :
    r.isPublic bucket path = true ↔
      ∃ patterns, r.patterns.get? bucket = some patterns ∧
        ∃ q ∈ patterns, covers q path = true := by
  unfold isPublic get
  cases r.patterns.get? bucket with
  | none => simp
  | some list => simp

/-- After some calls a path is public just if they open it. -/
theorem isPublic_calls_iff {place : ObjectLocation} :
    (calls.foldl call empty).isPublic place.bucket place.key = true ↔ Opens calls place := by
  simp only [isPublic_iff, get?_calls, covers_iff, Opens]

/-- A longer list for a bucket makes no path private. -/
theorem isPublic_set {r : Registry} {name path : String} {more : List String}
    (hmore : ∀ q ∈ r.get bucket, q ∈ more) (h : r.isPublic name path = true) :
    (r.set bucket more).isPublic name path = true := by
  obtain ⟨patterns, hpatterns, q, hq, hcovers⟩ := isPublic_iff.mp h
  apply isPublic_iff.mpr
  by_cases hname : name = bucket
  · subst hname
    have hget : r.get name = patterns := by rw [get, hpatterns, Option.getD_some]
    exact ⟨more, Directory.get?_insert_self _ _ _, q, hmore q (hget ▸ hq), hcovers⟩
  · refine ⟨patterns, ?_, q, hq, hcovers⟩
    exact (Directory.get?_insert_of_ne _ _ hname).trans hpatterns

end Registry

/-! ## Acts on a service -/

namespace Client

/-- What happens to a store and a registry that clients share. -/
inductive Act where
  /-- A call on the registry. -/
  | call (c : Registry.Call)
  /-- An operation of a client that shares both. -/
  | byClient (c : Client) (op : Operation)
  /-- An event at the store that has nothing to do with the registry. -/
  | elsewhere (event : Event)

/-- The service after an act. -/
def Act.after (s : Service Store) : Act → Service Store
  | .call change => { s with registry := s.registry.call change }
  | .byClient c op => (c.run op s).2
  | .elsewhere event => { s with backend := event.after s.backend }

/-- The service after a sequence of acts. -/
def afterActs (s : Service Store) (acts : List Act) : Service Store := acts.foldl Act.after s

/-- The call on the registry that an act comes to.  A client makes one when it replaces the public
paths of a bucket that it finds. -/
def Act.call? : Act → Option Registry.Call
  | .call change => some change
  | .byClient c (.onBucket bucket (.setPublic patterns)) =>
    (c.bucket bucket).toOption.map fun name => .set name patterns
  | _ => none

variable {c : Client} {op : Operation} {s : Service Store}

/-- Only replacing the public paths changes the registry. -/
theorem registry_run_of_ne (h : ∀ bucket patterns, op ≠ .onBucket bucket (.setPublic patterns)) :
    (c.run op s).2.registry = s.registry := by
  cases hrequest : c.request? op with
  | some request => rw [(run_of_request hrequest s).1]
  | none =>
      rcases run_of_no_request hrequest s with hsame | ⟨bucket, patterns, -, hop, -⟩
      · rw [hsame]
      · exact absurd hop (h bucket patterns)

/-- An act changes the registry by the call that it comes to. -/
theorem Act.registry_after (act : Act) (s : Service Store) :
    (act.after s).registry = act.call?.toList.foldl Registry.call s.registry := by
  cases act with
  | call change => rfl
  | elsewhere event => rfl
  | byClient c op =>
      cases op with
      | listBuckets => exact registry_run_of_ne nofun
      | describe => exact registry_run_of_ne nofun
      | onBucket bucket op =>
          cases op with
          | setPublic patterns =>
              change ((c.onBucket bucket (.setPublic patterns)).start s).2.registry = _
              rw [call?]
              cases hname : c.bucket bucket with
              | error fault =>
                  rw [start_onBucket_of_error c hname]
                  rfl
              | ok name =>
                  rw [start_onBucket_setPublic hname]
                  rfl
          | _ => exact registry_run_of_ne nofun

/-- The registry after some acts is that after the calls among them. -/
theorem registry_afterActs (acts : List Act) (s : Service Store) :
    (afterActs s acts).registry =
      (acts.filterMap Act.call?).foldl Registry.call s.registry := by
  induction acts generalizing s with
  | nil => rfl
  | cons act rest ih =>
      have hrest : (afterActs s (act :: rest)).registry =
          (rest.filterMap Act.call?).foldl Registry.call (act.after s).registry := ih _
      rw [hrest, act.registry_after, List.filterMap_cons]
      cases act.call? with
      | none => rfl
      | some change => rfl

end Client

/-! ## The configuration -/

namespace Client

theorem Event.config_after (event : Event) (s : Store) : (event.after s).config = s.config := by
  cases event with
  | direct op => exact s.config_run op
  | byClient step =>
      change (step.run s).2.config = s.config
      rcases step.exists_request s with hsame | ⟨request, hafter⟩
      · rw [hsame]
      · rw [hafter, s.config_run]

theorem config_afterEvents (events : List Event) (s : Store) :
    (afterEvents s events).config = s.config := by
  induction events generalizing s with
  | nil => rfl
  | cons event rest ih => exact (ih (event.after s)).trans (event.config_after s)

end Client

/-! ## The URL of a path -/

open Client in
/-- **Only public paths have plain URLs.**  Take a registry with some lists to begin with, and let
calls on it, its clients and anything at the store change both.  The URL of a path is the plain
one, which never expires, just if the list in force for its bucket has a pattern that is the star
or occurs in the path.  Otherwise the answer is the one for a signed URL, and if that is a URL at
all it is not the plain one.  Nothing that happens at the store changes the answer, and a longer
list for a bucket takes no plain URL away. -/
theorem url_free_iff (seed : List (String × List String)) (store : Store) (acts : List Act)
    (r : Resolver) (place : ObjectLocation) (expiresAt : Option Instant) (now : Instant) :
    let s := afterActs ⟨.ofList seed, store⟩ acts
    let calls := (seed.map fun e => Registry.Call.set e.1 e.2) ++ acts.filterMap Act.call?
    let answer := fun s : Service Store => ((r.url place expiresAt now).start s).1
    let plain : ResolvedUrl := ⟨s.backend.plainUrl place, .free⟩
    (answer s = .ok plain ↔ Registry.Opens calls place) ∧
    (¬Registry.Opens calls place → answer s = ((r.signedUrl place expiresAt now).start s).1 ∧
      ∀ resolved, answer s = .ok resolved →
        (∃ t, resolved.access = .signed t) ∧ resolved.url ≠ plain.url) ∧
    (∀ events, answer { s with backend := afterEvents s.backend events } = answer s) ∧
    ∀ bucket more, (∀ q ∈ s.registry.get bucket, q ∈ more) → answer s = .ok plain →
      answer ((Act.call (.set bucket more)).after s) = .ok plain := by
  intro s calls answer plain
  have hregistry : s.registry = calls.foldl Registry.call .empty := by
    rw [List.foldl_append, ← Registry.ofList_eq]
    exact registry_afterActs acts _
  have hopen : s.registry.isPublic place.bucket place.key = true ↔ Registry.Opens calls place := by
    rw [hregistry]
    exact Registry.isPublic_calls_iff
  have hplain : answer s = .ok plain ↔ s.registry.isPublic place.bucket place.key = true :=
    r.start_url_eq_plain_iff place expiresAt now
  refine ⟨hplain.trans hopen, ?_, ?_, ?_⟩
  · intro hclosed
    rw [← hopen, Bool.not_eq_true] at hclosed
    exact r.start_url_private place expiresAt now hclosed
  · intro events
    exact r.start_url_of_config_eq place expiresAt now (config_afterEvents events s.backend) _
  · intro bucket more hmore hfree
    have hpublic : ((Act.call (.set bucket more)).after s).registry.isPublic place.bucket
        place.key = true := Registry.isPublic_set hmore (hplain.mp hfree)
    exact (r.start_url_eq_plain_iff place expiresAt now).mpr hpublic

end ObjectAccess
