import ObjectAccess.Access.Client

/-!
# Operations of clients

Every operation of a client as data, with the clock readings and ids it uses.  An
operation that works on a bucket has it as an option, so that the choice of the
default bucket can be looked at for all operations at once.  That an operation never
ends counts as one of its answers, so that every operation is a task.
-/

namespace ObjectAccess.Client

set_option autoImplicit false

open ObjectAccess.Time ObjectAccess.Policy

/-- An operation on one bucket. -/
inductive BucketOperation where
  | createBucket (now : Instant)
  | deleteBucket
  | policy
  | applyPermissions (permissions : Specification)
  | deletePolicy
  | setPublic (patterns : List String)
  | publicPaths
  | isPublic (path : String)
  | put (now : Instant) (path : String) (body : List UInt8)
  | upload (made now : Instant) (id fileName : String) (body : List UInt8)
  | get (path : String)
  | delete (path : String)
  | deleteMany (paths : List String)
  | list (path : String)
  | listAll (path : String)
  | copy (made now : Instant) (path : String) (targetBucket targetPath : Option String)
  | url (now : Instant) (path : String) (expiresAt : Option Instant)
  | signedUrl (now : Instant) (path : String) (expiresAt : Option Instant)
  | plainUrl (path : String)

/-- An operation of a client. -/
inductive Operation where
  | onBucket (bucket : Option String) (op : BucketOperation)
  | listBuckets
  | describe

/-- What an operation answers. -/
inductive Answer where
  | done
  | truth (b : Bool)
  | text (s : String)
  | texts (ss : List String)
  | body (octets : List UInt8)
  | buckets (summaries : List BucketSummary)
  | objects (summaries : List ObjectSummary)
  | policy (value : Json.Value)
  | update (u : PolicyUpdate)
  | url (r : ResolvedUrl)
  /-- No answer: the operation never ends. -/
  | endless

variable {σ : Type} [Backend σ]

/-- An operation on a bucket, as a task. -/
def onBucket (c : Client) (bucket : Option String) : BucketOperation → Task (Service σ) Answer
  | .createBucket now => do c.createBucket now bucket; return .done
  | .deleteBucket => do c.deleteBucket bucket; return .done
  | .policy => do return .policy (← c.policy bucket)
  | .applyPermissions permissions => do return .update (← c.applyPermissions bucket permissions)
  | .deletePolicy => do c.deletePolicy bucket; return .done
  | .setPublic patterns => do c.setPublic bucket patterns; return .done
  | .publicPaths => do return .texts (← c.publicPaths bucket)
  | .isPublic path => do return .truth (← c.isPublic bucket path)
  | .put now path body => do return .text (← c.put now bucket path body)
  | .upload made now id fileName body =>
    do return .text (← c.upload made now id bucket fileName body)
  | .get path => do return .body (← c.get bucket path)
  | .delete path => do c.delete bucket path; return .done
  | .deleteMany paths => do c.deleteMany bucket paths; return .done
  | .list path => do return .objects (← c.list bucket path)
  | .listAll path => do
    match ← c.listAll bucket path with
    | some objects => return .objects objects
    | none => return .endless
  | .copy made now path targetBucket targetPath =>
    do return .text (← c.copy made now bucket path targetBucket targetPath)
  | .url now path expiresAt => do return .url (← c.url now bucket path expiresAt)
  | .signedUrl now path expiresAt => do return .url (← c.signedUrl now bucket path expiresAt)
  | .plainUrl path => do return .text (← c.plainUrl bucket path)

/-- An operation, as a task. -/
def perform (c : Client) : Operation → Task (Service σ) Answer
  | .onBucket bucket op => c.onBucket bucket op
  | .listBuckets => do return .buckets (← listBuckets)
  | .describe => Task.look fun s => .ok (.text (c.description s.registry))

/-- Runs an operation: its answer and the service after it. -/
def run (c : Client) (op : Operation) (s : Service σ) : Except Fault Answer × Service σ :=
  (c.perform op).start s

/-- The service after a sequence of operations by any clients. -/
def runAll (s : Service σ) (ops : List (Client × Operation)) : Service σ :=
  ops.foldl (fun s (c, op) => (c.run op s).2) s

end ObjectAccess.Client
