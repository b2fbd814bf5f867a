import ObjectAccess.Fault
import ObjectAccess.Listing
import ObjectAccess.Store.Basic

/-!
# Backends

A backend is anything that answers the requests of a storage client.  Each request
is a task on the state of the backend: it succeeds or fails, and in either case the
backend goes on in the state it leaves.  The in-memory store is one backend.

A request always comes to an end.  A client that makes one request after the other
until it has all that it wants may go on for ever: nothing bounds the number of pages
that a backend cuts a listing into.  What such a client does is a loop, of which it has
to be shown that it ends.
-/

namespace ObjectAccess

set_option autoImplicit false

open ObjectAccess.Time

/-- A computation on a state that may fail. -/
abbrev Task (σ α : Type) := ExceptT Fault (StateM σ) α

namespace Task

variable {σ α : Type}

/-- Runs a task: its result, and the state after it. -/
def start (task : Task σ α) (s : σ) : Except Fault α × σ := (ExceptT.run task).run s

/-- The task with a given outcome. -/
def of (f : σ → Except Fault α × σ) : Task σ α := ExceptT.mk (f : StateM σ (Except Fault α))

/-- A task that only looks at the state. -/
def look (f : σ → Except Fault α) : Task σ α := of fun s => (f s, s)

/-- A task that changes the state unless it fails. -/
def change (f : σ → Except Fault (α × σ)) : Task σ α :=
  of fun s =>
    match f s with
    | .ok (x, after) => (.ok x, after)
    | .error fault => (.error fault, s)

/-- A task that changes the state unless it fails, and answers nothing. -/
def update (f : σ → Except Fault σ) : Task σ Unit := change fun s => (f s).map fun s => ((), s)

end Task

/-- A computation on a state that may fail, and may also never end; nothing comes of it then. -/
abbrev Loop (σ α : Type) := σ → Option (Except Fault α × σ)

/-- A loop, as a task: what it answers, or nothing if it never ends. -/
def Task.await {σ α : Type} (loop : Loop σ α) : Task σ (Option α) :=
  .of fun s =>
    match loop s with
    | some (outcome, after) => (outcome.map some, after)
    | none => (.ok none, s)

/-- The requests of a storage client. -/
class Backend (σ : Type) where
  createBucket (now : Instant) (bucket : String) : Task σ Unit
  deleteBucket (bucket : String) : Task σ Unit
  listBuckets : Task σ (List BucketSummary)
  policy (bucket : String) : Task σ String
  putPolicy (bucket text : String) : Task σ Unit
  deletePolicy (bucket : String) : Task σ Unit
  /-- Stores an object and answers its entity tag. -/
  put (now : Instant) (bucket key : String) (body : List UInt8) : Task σ String
  get (bucket key : String) : Task σ (List UInt8)
  delete (bucket key : String) : Task σ Unit
  deleteMany (bucket : String) (keys : List String) : Task σ Unit
  copy (now : Instant) (source target : ObjectLocation) : Task σ Unit
  list (request : ListRequest) : Task σ ObjectPage
  presign (object : ObjectLocation) (signedAt expiresAt : Instant) : Task σ String
  plainUrl (object : ObjectLocation) : Task σ String

instance : Backend Store where
  createBucket now bucket := .update (·.createBucket now bucket)
  deleteBucket bucket := .update (·.deleteBucket bucket)
  listBuckets := .look fun s => .ok s.listBuckets
  policy bucket := .look (·.policy bucket)
  putPolicy bucket text := .update (·.putPolicy bucket text)
  deletePolicy bucket := .update (·.deletePolicy bucket)
  put now bucket key body := .change (·.put now bucket key body)
  get bucket key := .look (·.get bucket key)
  delete bucket key := .update (·.delete bucket key)
  deleteMany bucket keys := .update (·.deleteMany bucket keys)
  copy now source target := .update (·.copy now source target)
  list request := .look (·.list request)
  presign object signedAt expiresAt := .look (·.presign object signedAt expiresAt)
  plainUrl object := .look fun s => .ok (s.plainUrl object)

end ObjectAccess
