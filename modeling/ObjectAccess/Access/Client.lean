import ObjectAccess.Access.Resolver
import ObjectAccess.Policy.Compiler

/-!
# Storage clients

A client works on the bucket that an operation names, or on its default bucket if
none is named or the name is empty.  Paths lose the slashes at their ends before they
become keys of new objects; all other operations take keys as they are given.

Several clients may share one service, that is one backend and one registry of
public paths.
-/

namespace ObjectAccess

set_option autoImplicit false

open ObjectAccess.Time ObjectAccess.Naming ObjectAccess.Policy

/-- A client of a service. -/
structure Client where
  /-- The bucket of an operation that names none; empty if there is no default. -/
  defaultBucket : String
  resolver : Resolver
  deriving DecidableEq

/-- What came of applying permissions. -/
inductive PolicyUpdate where
  /-- The policy is attached to the bucket. -/
  | applied (document : Document)
  /-- The permissions make no policy, and the bucket was left alone. -/
  | unchanged
  deriving DecidableEq

variable {σ : Type} [Backend σ]

/-! ## Pages -/

/-- After which object a truncated listing goes on: where the page says, or after its last
object. -/
def ObjectPage.continuation? (page : ObjectPage) : Option String :=
  if page.isTruncated then page.nextMarker <|> page.objects.getLast?.map (·.key) else none

/-- What comes of asking a service for a page and for all pages after it, however many there are:
their objects, or nothing if the pages never end. -/
def Service.listPages (s : Service σ) (request : ListRequest) :
    Option (Except Fault (List ObjectSummary) × Service σ) :=
  match (Service.onBackend (Backend.list request)).start s with
  | (.error fault, after) => some (.error fault, after)
  | (.ok page, after) =>
    match page.continuation? with
    | none => some (.ok page.objects, after)
    | some marker => do
      let (others, last) ← after |>.listPages { request with marker := some marker }
      return (others.map (page.objects ++ ·), last)
partial_fixpoint

namespace Client

/-- The client of a configuration. -/
def ofConfig (c : Config) : Client := ⟨c.bucket, .ofSeconds c.urlExpirySeconds⟩

/-- A bucket name that says something. -/
def named? (bucket : Option String) : Option String := bucket.filter (· ≠ "")

/-- The bucket of an operation. -/
def bucket (c : Client) (bucket : Option String) : Except Fault String :=
  match named? bucket <|> named? (some c.defaultBucket) with
  | some name => .ok name
  | none => .error .bucketNotSet

/-- The bucket of an operation, as a task. -/
def chosen (c : Client) (bucket : Option String) : Task (Service σ) String :=
  .look fun _ => c.bucket bucket

/-! ## Buckets and policies -/

/-- Creates a bucket. -/
def createBucket (c : Client) (now : Instant) (bucket : Option String) : Task (Service σ) Unit := do
  let name ← c.chosen bucket
  Service.onBackend (Backend.createBucket now name)

/-- Deletes a bucket that holds no objects. -/
def deleteBucket (c : Client) (bucket : Option String) : Task (Service σ) Unit := do
  let name ← c.chosen bucket
  Service.onBackend (Backend.deleteBucket name)

/-- All buckets. -/
def listBuckets : Task (Service σ) (List BucketSummary) := Service.onBackend Backend.listBuckets

/-- The policy of a bucket, as JSON. -/
def policy (c : Client) (bucket : Option String) : Task (Service σ) Json.Value := do
  let name ← c.chosen bucket
  let text ← Service.onBackend (Backend.policy name)
  Task.look fun _ => (Json.parse text).mapError .malformedPolicy

/-- Attaches the policy of a specification, if it makes one. -/
def applyPermissions (c : Client) (bucket : Option String) (s : Specification) :
    Task (Service σ) PolicyUpdate := do
  let name ← c.chosen bucket
  match compile? s name with
  | none => return .unchanged
  | some document => do
    Service.onBackend (Backend.putPolicy name document.text)
    return .applied document

/-- Detaches the policy of a bucket. -/
def deletePolicy (c : Client) (bucket : Option String) : Task (Service σ) Unit := do
  let name ← c.chosen bucket
  Service.onBackend (Backend.deletePolicy name)

/-! ## Public paths -/

/-- Replaces the public paths of a bucket. -/
def setPublic (c : Client) (bucket : Option String) (patterns : List String) :
    Task (Service σ) Unit := do
  let name ← c.chosen bucket
  Task.update fun s => .ok { s with registry := s.registry.set name patterns }

/-- The public paths of a bucket. -/
def publicPaths (c : Client) (bucket : Option String) : Task (Service σ) (List String) := do
  let name ← c.chosen bucket
  Task.look fun s => .ok (s.registry.get name)

/-- Whether a path is public. -/
def isPublic (c : Client) (bucket : Option String) (path : String) : Task (Service σ) Bool := do
  let name ← c.chosen bucket
  Task.look fun s => .ok (s.registry.isPublic name path)

/-! ## Objects -/

/-- Stores an object and answers its key. -/
def put (c : Client) (now : Instant) (bucket : Option String) (path : String)
    (body : List UInt8) : Task (Service σ) String := do
  let name ← c.chosen bucket
  let key := trimSlashes path
  Task.look fun _ => checkObjectKey key
  let _ ← Service.onBackend (Backend.put now name key body)
  return key

/-- Stores an object under a key made for it and answers that key.  The clock is read twice: once
for the key, and then for the object. -/
def upload (c : Client) (made now : Instant) (id : String) (bucket : Option String)
    (fileName : String) (body : List UInt8) : Task (Service σ) String :=
  c.put now bucket (uploadKey fileName id made) body

/-- The body of an object. -/
def get (c : Client) (bucket : Option String) (path : String) : Task (Service σ) (List UInt8) := do
  let name ← c.chosen bucket
  Service.onBackend (Backend.get name path)

/-- Deletes an object. -/
def delete (c : Client) (bucket : Option String) (path : String) : Task (Service σ) Unit := do
  let name ← c.chosen bucket
  Service.onBackend (Backend.delete name path)

/-- Deletes several objects; for none at all the backend is not asked. -/
def deleteMany (c : Client) (bucket : Option String) (paths : List String) :
    Task (Service σ) Unit := do
  let name ← c.chosen bucket
  if paths.isEmpty then return ()
  else Service.onBackend (Backend.deleteMany name paths)

/-- The first page of the objects under a path. -/
def list (c : Client) (bucket : Option String) (path : String) :
    Task (Service σ) (List ObjectSummary) := do
  let name ← c.chosen bucket
  let page ← Service.onBackend (Backend.list { bucket := name, keyStart := path })
  return page.objects

/-- All objects under a path, page by page, or nothing if the pages never end. -/
def listAll (c : Client) (bucket : Option String) (path : String) :
    Task (Service σ) (Option (List ObjectSummary)) := do
  let name ← c.chosen bucket
  Task.await (·.listPages { bucket := name, keyStart := path })

/-- Copies an object and answers the key of the copy.  The target is in the bucket of the source
unless it names one, and has a key made for it unless it has a path.  The clock is read for the
key, and then for the copy. -/
def copy (c : Client) (made now : Instant) (bucket : Option String) (path : String)
    (targetBucket : Option String) (targetPath : Option String) : Task (Service σ) String := do
  let name ← c.chosen bucket
  let target : ObjectLocation :=
    ⟨(named? targetBucket).getD name, targetPath.getD (copyKey path made)⟩
  Service.onBackend (Backend.copy now ⟨name, path⟩ target)
  return target.key

/-! ## URLs -/

/-- The URL of an object. -/
def url (c : Client) (now : Instant) (bucket : Option String) (path : String)
    (expiresAt : Option Instant) : Task (Service σ) ResolvedUrl := do
  let name ← c.chosen bucket
  c.resolver.url ⟨name, path⟩ expiresAt now

/-- A signed URL of an object, even on a public path. -/
def signedUrl (c : Client) (now : Instant) (bucket : Option String) (path : String)
    (expiresAt : Option Instant) : Task (Service σ) ResolvedUrl := do
  let name ← c.chosen bucket
  c.resolver.signedUrl ⟨name, path⟩ expiresAt now

/-- The plain URL of an object, whether or not its path is public. -/
def plainUrl (c : Client) (bucket : Option String) (path : String) : Task (Service σ) String := do
  let name ← c.chosen bucket
  Service.onBackend (Backend.plainUrl ⟨name, path⟩)

/-! ## Description -/

/-- A list of quoted texts. -/
def quotedList (texts : List String) : String :=
  "[" ++ String.intercalate ", " (texts.map Text.quote) ++ "]"

/-- The client and the public paths for people. -/
def description (c : Client) (r : Registry) : String :=
  "StorageClient \x7b default_bucket: " ++ Text.quote c.defaultBucket ++
    ", resolver: AccessResolver \x7b registry: PublicPathRegistry \x7b patterns: \x7b" ++
    String.intercalate ", "
      (r.patterns.entries.map fun e => Text.quote e.1 ++ ": " ++ quotedList e.2) ++
    "\x7d \x7d, default_ttl: TimeDelta \x7b secs: " ++ toString c.resolver.lifetime.seconds ++
    ", nanos: " ++ toString c.resolver.lifetime.nanos ++ " \x7d, .. \x7d, .. \x7d"

end Client

end ObjectAccess
