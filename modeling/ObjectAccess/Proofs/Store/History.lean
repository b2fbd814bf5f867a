import Mathlib.Data.List.Induction
import ObjectAccess.Proofs.Store.Contents

/-!
# The last write

The contents of a store are a matter of its history.  An operation writes to a location if it
succeeds and puts an object there, and it removes from a location if it succeeds and deletes
what is there; a copy writes the body that its source has at that moment.  What a run leaves
at a location is what the last operation that wrote to it put there, if none has removed it
since (`object?_runAll`), and that is what reading answers (`get_runAll`).  The argument is the
same for every part of a store that operations set (`Register.value_runAll`).

Deleting a bucket removes nothing in this sense: only a bucket without objects can be deleted,
so no location loses an object by it, and a bucket that is created again starts without any.
-/

namespace ObjectAccess.Store

set_option autoImplicit false

open ObjectAccess.Time ObjectAccess.Naming

/-! ## Writing and removing -/

/-- Whether an operation puts an object at a location. -/
inductive Writes (s : Store) : Operation → ObjectLocation → StoredObject → Prop where
  | put {now : Instant} {bucket key : String} {body : List UInt8}
      (hsucceeds : s.Succeeds (.put now bucket key body)) :
      Writes s (.put now bucket key body) ⟨bucket, key⟩ (.ofBody body now)
  | copy {now : Instant} {source target : ObjectLocation} {body : List UInt8}
      (hsucceeds : s.Succeeds (.copy now source target))
      (hbody : s.get source.bucket source.key = .ok body) :
      Writes s (.copy now source target) target (.ofBody body now)

/-- Whether an operation deletes what is at a location. -/
inductive Removes (s : Store) : Operation → ObjectLocation → Prop where
  | delete {bucket key : String} (hsucceeds : s.Succeeds (.delete bucket key)) :
      Removes s (.delete bucket key) ⟨bucket, key⟩
  | deleteMany {bucket key : String} {keys : List String}
      (hsucceeds : s.Succeeds (.deleteMany bucket keys)) (hkey : key ∈ keys) :
      Removes s (.deleteMany bucket keys) ⟨bucket, key⟩
  | reset (place : ObjectLocation) : Removes s .reset place

/-- Whether an operation writes to a location or removes from it. -/
def Touches (s : Store) (op : Operation) (place : ObjectLocation) : Prop :=
  (∃ o, s.Writes op place o) ∨ s.Removes op place

/-- What is written is the body with its tag. -/
theorem Writes.eq_ofBody {s : Store} {op : Operation} {place : ObjectLocation} {o : StoredObject}
    (h : s.Writes op place o) : ∃ now, o = .ofBody o.body now := by
  cases h with
  | put _ => exact ⟨_, rfl⟩
  | copy _ _ => exact ⟨_, rfl⟩

/-- A copy that succeeds writes to its target. -/
theorem exists_writes_of_copy {s : Store} {now : Instant} {source target : ObjectLocation}
    (h : s.Succeeds (.copy now source target)) :
    ∃ o, s.Writes (.copy now source target) target o := by
  have hchange := change_of_succeeds h
  generalize (s.run _).2 = after at hchange
  cases hchange with
  | @copy _ _ _ o _ _ hsource _ => exact ⟨_, .copy h (get_eq_ok_iff.mpr ⟨o, hsource, rfl⟩)⟩
  | read hreads => cases hreads

/-! ## One step -/

theorem object?_run_of_writes {s : Store} {op : Operation} {place : ObjectLocation}
    {o : StoredObject} (h : s.Writes op place o) : (s.run op).2.object? place = some o := by
  cases h with
  | put hsucceeds =>
      have hchange := change_of_succeeds hsucceeds
      generalize (s.run _).2 = after at hchange ⊢
      cases hchange with
      | put _ _ _ _ => simp [object?_withBucket, Bucket.get?_put]
      | read hreads => cases hreads
  | @copy now source _ body hsucceeds hbody =>
      obtain ⟨found, hfound, rfl⟩ := get_eq_ok_iff.mp hbody
      have hchange := change_of_succeeds hsucceeds
      generalize (s.run _).2 = after at hchange ⊢
      cases hchange with
      | copy _ _ hsource _ =>
          obtain rfl : found = _ := Option.some.inj (hfound.symm.trans hsource)
          simp [object?_withBucket, Bucket.get?_put]
      | read hreads => cases hreads

theorem object?_run_of_removes {s : Store} {op : Operation} {place : ObjectLocation}
    (h : s.Removes op place) : (s.run op).2.object? place = none := by
  cases h with
  | delete hsucceeds =>
      have hchange := change_of_succeeds hsucceeds
      generalize (s.run _).2 = after at hchange ⊢
      cases hchange with
      | delete _ _ => simp [object?_withBucket, Bucket.get?_delete]
      | read hreads => cases hreads
  | deleteMany hsucceeds hkey =>
      have hchange := change_of_succeeds hsucceeds
      generalize (s.run _).2 = after at hchange ⊢
      cases hchange with
      | deleteMany _ _ => simp [object?_withBucket, Bucket.get?_deleteMany, hkey]
      | read hreads => cases hreads
  | reset => rfl

/-- A bucket that takes the place of one with the same object at a key changes nothing there. -/
theorem object?_withBucket_of_get? {s : Store} {place : ObjectLocation} {name : String}
    {b : Bucket} (h : place.bucket = name → b.objects.get? place.key = s.object? place) :
    (s.withBucket name b).object? place = s.object? place := by
  rw [object?_withBucket]
  split
  · next hname => exact h hname
  · rfl

/-- A location that is not touched keeps its object. -/
theorem object?_run_of_not_touches {s : Store} {op : Operation} {place : ObjectLocation}
    (h : ¬s.Touches op place) : (s.run op).2.object? place = s.object? place := by
  rcases change_run s op with ⟨hsucceeds, hchange⟩ | ⟨-, hsame⟩
  · have hwrites : ∀ o, ¬s.Writes op place o := fun o ho => h (Or.inl ⟨o, ho⟩)
    have hremoves : ¬s.Removes op place := fun hr => h (Or.inr hr)
    generalize (s.run op).2 = after at hchange ⊢
    obtain ⟨name, key⟩ := place
    cases hchange with
    | createBucket now _ habsent =>
        refine object?_withBucket_of_get? fun hname => ?_
        subst hname
        rw [object?, habsent]
        rfl
    | @deleteBucket bucket b hbucket hempty =>
        by_cases hname : name = bucket
        · subst hname
          have hbefore : s.object? ⟨name, key⟩ = none :=
            (object?_of_get? hbucket).trans (Directory.get?_of_isEmpty hempty key)
          rw [hbefore, object?, Directory.get?_erase_self]
          rfl
        · rw [object?, object?, Directory.get?_erase_of_ne _ hname]
    | reset => exact absurd (.reset _) hremoves
    | putPolicy hbucket _ =>
        exact object?_withBucket_of_get? fun hname => by subst hname; rw [object?_of_get? hbucket]
    | deletePolicy hbucket =>
        exact object?_withBucket_of_get? fun hname => by subst hname; rw [object?_of_get? hbucket]
    | @put now bucket written body b _ hbucket =>
        refine object?_withBucket_of_get? fun hname => ?_
        subst hname
        have hkey : key ≠ written := by
          rintro rfl
          exact hwrites _ (.put hsucceeds)
        rw [Bucket.get?_put, if_neg hkey, object?_of_get? hbucket]
    | @delete bucket deleted b hbucket =>
        refine object?_withBucket_of_get? fun hname => ?_
        subst hname
        have hkey : key ≠ deleted := by
          rintro rfl
          exact hremoves (.delete hsucceeds)
        rw [Bucket.get?_delete, if_neg hkey, object?_of_get? hbucket]
    | deleteMany keys hbucket =>
        refine object?_withBucket_of_get? fun hname => ?_
        subst hname
        have hkey : key ∉ keys := fun hmem => hremoves (.deleteMany hsucceeds hmem)
        rw [Bucket.get?_deleteMany, if_neg hkey, object?_of_get? hbucket]
    | @copy now source target o b _ hsource hbucket =>
        obtain ⟨bucket, written⟩ := target
        refine object?_withBucket_of_get? fun hname => ?_
        subst hname
        have hbody : s.get source.bucket source.key = .ok o.body :=
          get_eq_ok_iff.mpr ⟨o, hsource, rfl⟩
        have hkey : key ≠ written := by
          rintro rfl
          exact hwrites _ (.copy hsucceeds hbody)
        have hbefore : s.object? ⟨name, key⟩ = b.objects.get? key := object?_of_get? hbucket
        rw [Bucket.get?_put, if_neg hkey, hbefore]
    | read _ => rfl
  · rw [hsame]

/-! ## Runs -/

@[simp] theorem runAll_nil (s : Store) : s.runAll [] = s := rfl

theorem runAll_append (s : Store) (ops more : List Operation) :
    s.runAll (ops ++ more) = (s.runAll ops).runAll more := List.foldl_append

theorem runAll_concat (s : Store) (ops : List Operation) (op : Operation) :
    s.runAll (ops ++ [op]) = ((s.runAll ops).run op).2 := runAll_append s ops [op]

/-- Whether something happens at a position of a run: whether it holds of the operation at the
position and of the store before it. -/
def HappensAt (s : Store) (ops : List Operation) (i : Nat) (event : Store → Operation → Prop) :
    Prop :=
  ∃ op, ops[i]? = some op ∧ event (s.runAll (ops.take i)) op

variable {s : Store} {ops : List Operation} {op : Operation} {i : Nat}
  {event : Store → Operation → Prop}

theorem HappensAt.lt_length (h : s.HappensAt ops i event) : i < ops.length := by
  obtain ⟨op, hop, -⟩ := h
  exact (List.getElem?_eq_some_iff.mp hop).1

/-- One operation more adds what happens at the end. -/
theorem happensAt_concat : s.HappensAt (ops ++ [op]) i event ↔
    s.HappensAt ops i event ∨ (i = ops.length ∧ event (s.runAll ops) op) := by
  constructor
  · intro h
    have hlt := h.lt_length
    obtain ⟨other, hother, hevent⟩ := h
    rw [List.length_append, List.length_singleton] at hlt
    rw [List.take_append_of_le_length (by omega)] at hevent
    by_cases hi : i = ops.length
    · subst hi
      rw [List.getElem?_concat_length, Option.some.injEq] at hother
      rw [List.take_length] at hevent
      exact Or.inr ⟨rfl, hother ▸ hevent⟩
    · rw [List.getElem?_append_left (by omega)] at hother
      exact Or.inl ⟨other, hother, hevent⟩
  · rintro (h | ⟨rfl, hevent⟩)
    · have hlt := h.lt_length
      obtain ⟨other, hother, hevent⟩ := h
      refine ⟨other, ?_, ?_⟩
      · rw [List.getElem?_append_left hlt, hother]
      · rwa [List.take_append_of_le_length (by omega)]
    · refine ⟨op, List.getElem?_concat_length, ?_⟩
      rwa [List.take_append_of_le_length (Nat.le_refl _), List.take_length]

/-- Whether something happens in a run and something else does not happen later. -/
def HappensLast (s : Store) (ops : List Operation) (event later : Store → Operation → Prop) :
    Prop :=
  ∃ i, s.HappensAt ops i event ∧ ∀ j, i < j → ¬s.HappensAt ops j later

variable {later : Store → Operation → Prop}

theorem not_happensLast_nil : ¬s.HappensLast [] event later := by
  rintro ⟨i, hevent, -⟩
  exact absurd hevent.lt_length (Nat.not_lt_zero i)

/-- What happens at the end happens last, and what happened last before stays so unless the end is
something later. -/
theorem happensLast_concat : s.HappensLast (ops ++ [op]) event later ↔
    event (s.runAll ops) op ∨ (s.HappensLast ops event later ∧ ¬later (s.runAll ops) op) := by
  constructor
  · rintro ⟨i, hevent, hlater⟩
    rcases happensAt_concat.mp hevent with hbefore | ⟨-, hend⟩
    · refine Or.inr ⟨⟨i, hbefore, fun j hj hhappens => ?_⟩, fun hend => ?_⟩
      · exact hlater j hj (happensAt_concat.mpr (Or.inl hhappens))
      · exact hlater _ hbefore.lt_length (happensAt_concat.mpr (Or.inr ⟨rfl, hend⟩))
    · exact Or.inl hend
  · rintro (hend | ⟨⟨i, hevent, hlater⟩, hnot⟩)
    · refine ⟨ops.length, happensAt_concat.mpr (Or.inr ⟨rfl, hend⟩), fun j hj hhappens => ?_⟩
      rcases happensAt_concat.mp hhappens with hbefore | ⟨heq, -⟩
      · exact absurd hbefore.lt_length (by omega)
      · omega
    · refine ⟨i, happensAt_concat.mpr (Or.inl hevent), fun j hj hhappens => ?_⟩
      rcases happensAt_concat.mp hhappens with hbefore | ⟨-, hend⟩
      · exact hlater j hj hbefore
      · exact hnot hend

/-! ## Registers -/

/-- A part of a store that operations set to values, and for which others are the end of a value
that was set before. -/
structure Register (α : Type) where
  value : Store → Option α
  /-- Whether an operation sets a value. -/
  Sets : Store → Operation → α → Prop
  /-- Whether a value that was set before an operation does not count after it. -/
  Ends : Store → Operation → Prop
  value_of_sets : ∀ {s op a}, Sets s op a → value (s.run op).2 = some a
  value_of_ends : ∀ {s op}, Ends s op → (∀ a, ¬Sets s op a) → value (s.run op).2 = none
  value_of_not : ∀ {s op}, ¬Ends s op → (∀ a, ¬Sets s op a) → value (s.run op).2 = value s
  /-- A value is set over another one only by an operation that ends that one. -/
  none_of_sets : ∀ {s op a}, Sets s op a → ¬Ends s op → value s = none

/-- **A register has the value that was set last**, if that has not ended since. -/
theorem Register.value_runAll {α : Type} (r : Register α) {s : Store} (hnone : r.value s = none)
    (ops : List Operation) (a : α) :
    r.value (s.runAll ops) = some a ↔ s.HappensLast ops (fun t op => r.Sets t op a) r.Ends := by
  -- The run grows at its end, since what happens last is a matter of the last operation: it sets
  -- the register, ends what was in it, or leaves it alone.
  induction ops using List.reverseRecOn with
  | nil =>
      rw [runAll_nil, hnone]
      exact iff_of_false (by simp) not_happensLast_nil
  | append_singleton ops op ih =>
      rw [runAll_concat, happensLast_concat, ← ih]
      by_cases hsets : ∃ other, r.Sets (s.runAll ops) op other
      · obtain ⟨other, hother⟩ := hsets
        rw [r.value_of_sets hother]
        constructor
        · intro h
          exact Or.inl (Option.some.inj h ▸ hother)
        · rintro (ha | ⟨hvalue, hends⟩)
          · rw [← r.value_of_sets hother, r.value_of_sets ha]
          · rw [r.none_of_sets hother hends] at hvalue
            cases hvalue
      · have hsets' : ∀ other, ¬r.Sets (s.runAll ops) op other := not_exists.mp hsets
        by_cases hends : r.Ends (s.runAll ops) op
        · rw [r.value_of_ends hends hsets']
          simp [hsets', hends]
        · rw [r.value_of_not hends hsets']
          simp [hsets', hends]

/-- The register of the object at a location. -/
def objectRegister (place : ObjectLocation) : Register StoredObject where
  value s := s.object? place
  Sets s op o := s.Writes op place o
  Ends s op := s.Touches op place
  value_of_sets := object?_run_of_writes
  value_of_ends htouches hwrites :=
    object?_run_of_removes (htouches.resolve_left (not_exists.mpr hwrites))
  value_of_not htouches _ := object?_run_of_not_touches htouches
  none_of_sets hwrites huntouched := absurd (Or.inl ⟨_, hwrites⟩) huntouched

/-- An object is what the last write of a run put at a location: it was put there at some
position, and the location was not touched later. -/
def LastWrite (s : Store) (ops : List Operation) (place : ObjectLocation) (o : StoredObject) :
    Prop :=
  ∃ i, s.HappensAt ops i (fun t op => t.Writes op place o) ∧
    ∀ j, i < j → ¬s.HappensAt ops j fun t op => t.Touches op place

variable {place : ObjectLocation} {o : StoredObject}

/-- What a run leaves at a location without an object is what its last write put there. -/
theorem object?_runAll (hnone : s.object? place = none) (ops : List Operation)
    (o : StoredObject) :
    (s.runAll ops).object? place = some o ↔ s.LastWrite ops place o :=
  (objectRegister place).value_runAll hnone ops o

/-! ## Reachable stores -/

/-- Whether a store comes about by operations on an empty one. -/
def Reachable (s : Store) : Prop := ∃ config ops, s = (empty config).runAll ops

/-- An object in a reachable store has the tag of its body. -/
theorem Reachable.eq_ofBody (h : s.Reachable) (ho : s.object? place = some o) :
    ∃ now, o = .ofBody o.body now := by
  obtain ⟨config, ops, rfl⟩ := h
  obtain ⟨i, ⟨op, -, hwrites⟩, -⟩ := (object?_runAll (object?_empty config place) ops o).mp ho
  exact hwrites.eq_ofBody

/-! ## Reading -/

/-- **Reading answers the last write.**  After any run from an empty store, a bucket that does not
exist is what reading complains of; otherwise the answer is the body that the last write put at
the location, if nothing has removed it since, and without such a write it is that the key does
not exist. -/
theorem get_runAll (config : Config) (ops : List Operation) (bucket key : String) :
    let s := (empty config).runAll ops
    (s.get bucket key = .error (.noSuchBucket bucket) ↔ s.bucketExists bucket = false) ∧
    (∀ body, s.get bucket key = .ok body ↔ s.bucketExists bucket = true ∧
      ∃ o, (empty config).LastWrite ops ⟨bucket, key⟩ o ∧ o.body = body) ∧
    (s.get bucket key = .error (.noSuchKey key) ↔ s.bucketExists bucket = true ∧
      ¬∃ o, (empty config).LastWrite ops ⟨bucket, key⟩ o) := by
  intro s
  have hlast : ∀ o, s.object? ⟨bucket, key⟩ = some o ↔
      (empty config).LastWrite ops ⟨bucket, key⟩ o :=
    object?_runAll (object?_empty config _) ops
  have hkind : Fault.noSuchKey key ≠ .noSuchBucket bucket := by
    intro h
    cases congrArg Fault.kind h
  rw [get_eq]
  cases hexists : s.bucketExists bucket with
  | false => simp [hkind.symm]
  | true =>
      cases hobject : s.object? ⟨bucket, key⟩ with
      | none =>
          have hnone : ∀ o, ¬(empty config).LastWrite ops ⟨bucket, key⟩ o := by
            intro o ho
            rw [(hlast o).mpr ho] at hobject
            cases hobject
          simp [hnone, hkind]
      | some o =>
          have hunique : ∀ other, (empty config).LastWrite ops ⟨bucket, key⟩ other ↔ other = o := by
            intro other
            rw [← hlast, hobject, Option.some.injEq]
            exact eq_comm
          simp [hunique]

end ObjectAccess.Store
