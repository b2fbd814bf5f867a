import ObjectAccess.Access.Client

/-!
# Tasks

A task answers or fails, and leaves a state behind.  Its first step does, and after an answer the
rest goes on from there (`Task.start_bind`).  A task that waits for a loop does what the loop does,
if that comes to an end (`Task.start_await`).
-/

namespace ObjectAccess

set_option autoImplicit false

/-! ## Tasks -/

namespace Task

variable {σ α β : Type}

@[simp] theorem start_pure (x : α) (s : σ) : (pure x : Task σ α).start s = (.ok x, s) := rfl

@[simp] theorem start_look (f : σ → Except Fault α) (s : σ) : (look f).start s = (f s, s) := rfl

theorem start_change (f : σ → Except Fault (α × σ)) (s : σ) :
    (change f).start s =
      match f s with
      | .ok (x, after) => (.ok x, after)
      | .error fault => (.error fault, s) := rfl

theorem start_bind (t : Task σ α) (f : α → Task σ β) (s : σ) :
    (t >>= f).start s =
      match t.start s with
      | (.ok x, after) => (f x).start after
      | (.error fault, after) => (.error fault, after) := by
  unfold start ExceptT.run StateT.run
  simp only [bind, ExceptT.bind, ExceptT.mk, StateT.bind, ExceptT.bindCont]
  cases t s with
  | mk outcome after => cases outcome <;> rfl

theorem start_bind_of_ok {t : Task σ α} {s after : σ} {x : α} (h : t.start s = (.ok x, after))
    (f : α → Task σ β) : (t >>= f).start s = (f x).start after := by
  rw [start_bind, h]

theorem start_bind_of_error {t : Task σ α} {s after : σ} {fault : Fault}
    (h : t.start s = (.error fault, after)) (f : α → Task σ β) :
    (t >>= f).start s = (.error fault, after) := by
  rw [start_bind, h]

/-- A task comes to an answer only if its first step does, and its second step from there. -/
theorem exists_of_start_bind_eq_ok {t : Task σ α} {f : α → Task σ β} {s : σ} {y : β}
    (h : ((t >>= f).start s).1 = .ok y) :
    ∃ x, (t.start s).1 = .ok x ∧ ((f x).start (t.start s).2).1 = .ok y := by
  rw [start_bind] at h
  cases hfirst : t.start s with
  | mk outcome after =>
      rw [hfirst] at h
      cases outcome with
      | ok x => exact ⟨x, rfl, h⟩
      | error fault => cases h

/-- Turning the answer of a task into another one. -/
theorem start_bind_pure (t : Task σ α) (g : α → β) (s : σ) :
    (t >>= fun x => pure (g x)).start s = ((t.start s).1.map g, (t.start s).2) := by
  rw [start_bind]
  cases t.start s with
  | mk outcome after =>
      cases outcome with
      | ok x => exact start_pure (g x) after
      | error fault => rfl

theorem start_onBackend (t : Task σ α) (s : Service σ) :
    (Service.onBackend t).start s =
      ((t.start s.backend).1, { s with backend := (t.start s.backend).2 }) := rfl

theorem start_onBackend_change (f : σ → Except Fault (α × σ)) (s : Service σ) :
    (Service.onBackend (change f)).start s =
      match f s.backend with
      | .ok (x, after) => (.ok x, { s with backend := after })
      | .error fault => (.error fault, s) := by
  rw [start_onBackend, start_change]
  cases f s.backend <;> rfl

theorem start_onBackend_update (f : σ → Except Fault σ) (s : Service σ) :
    (Service.onBackend (update f)).start s =
      match f s.backend with
      | .ok after => (.ok (), { s with backend := after })
      | .error fault => (.error fault, s) := by
  rw [update, start_onBackend_change]
  cases f s.backend <;> rfl

theorem start_await {loop : Loop σ α} {s after : σ} {outcome : Except Fault α}
    (h : loop s = some (outcome, after)) : (await loop).start s = (outcome.map some, after) := by
  show await loop s = _
  simp only [await, of, ExceptT.mk, h]

/-- Whether a task leaves every state as it is. -/
def Keeps (t : Task σ α) : Prop := ∀ s, (t.start s).2 = s

theorem keeps_pure (x : α) : (pure x : Task σ α).Keeps := fun _ => rfl

theorem keeps_look (f : σ → Except Fault α) : (look f).Keeps := fun _ => rfl

theorem Keeps.bind {t : Task σ α} {f : α → Task σ β} (ht : t.Keeps) (hf : ∀ x, (f x).Keeps) :
    (t >>= f).Keeps := by
  intro s
  have hs := ht s
  rw [start_bind]
  cases hstart : t.start s with
  | mk outcome after =>
      rw [hstart] at hs
      cases outcome with
      | ok x => exact (hf x after).trans hs
      | error fault => exact hs

theorem Keeps.onBackend {t : Task σ α} (ht : t.Keeps) : (Service.onBackend t).Keeps := by
  intro s
  rw [start_onBackend, ht s.backend]

end Task

/-! ## The choice of the bucket -/

namespace Client

variable {σ α : Type} (c : Client) {bucket : Option String}

theorem start_chosen_bind {name : String} (h : c.bucket bucket = .ok name)
    (f : String → Task (Service σ) α) :
    (c.chosen bucket >>= f).start = (f name).start := by
  funext s
  exact Task.start_bind_of_ok (by rw [chosen, Task.start_look, h]) f

theorem start_chosen_bind_of_error {fault : Fault} (h : c.bucket bucket = .error fault)
    (f : String → Task (Service σ) α) (s : Service σ) :
    (c.chosen bucket >>= f).start s = (.error fault, s) :=
  Task.start_bind_of_error (by rw [chosen, Task.start_look, h]) f

end Client

end ObjectAccess
