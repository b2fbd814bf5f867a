import ObjectAccess.Config
import ObjectAccess.Json.Reader
import ObjectAccess.Naming.BucketName
import ObjectAccess.Naming.ObjectKey
import ObjectAccess.Signing.Verify
import ObjectAccess.Store.Bucket

/-!
# The object store

A store holds buckets by name and signs URLs with the key pair of its
configuration.  An operation that changes the store gives back the new store or a
fault, so a failed operation has nothing to undo.
-/

namespace ObjectAccess

set_option autoImplicit false

open ObjectAccess.Time ObjectAccess.Naming ObjectAccess.Signing

/-- An object store. -/
structure Store where
  config : Config
  buckets : Directory Bucket

namespace Store

/-- The store without buckets. -/
def empty (config : Config) : Store := ⟨config, Directory.empty⟩

/-- The bucket of a name. -/
def bucket (s : Store) (name : String) : Except Fault Bucket :=
  match s.buckets.get? name with
  | some b => .ok b
  | none => .error (.noSuchBucket name)

/-- The store with a bucket under a name. -/
def withBucket (s : Store) (name : String) (b : Bucket) : Store :=
  { s with buckets := s.buckets.insert name b }

/-! ## Buckets -/

/-- Whether a bucket exists. -/
def bucketExists (s : Store) (name : String) : Bool := s.buckets.contains name

/-- Creates a bucket. -/
def createBucket (s : Store) (now : Instant) (name : String) : Except Fault Store := do
  checkBucketName name
  if s.bucketExists name then .error (.bucketAlreadyOwned name)
  else .ok (s.withBucket name (.new now))

/-- Deletes a bucket that holds no objects. -/
def deleteBucket (s : Store) (name : String) : Except Fault Store := do
  let b ← s.bucket name
  if b.objects.isEmpty then .ok { s with buckets := s.buckets.erase name }
  else .error (.bucketNotEmpty name)

/-- All buckets in the order of their names. -/
def listBuckets (s : Store) : List BucketSummary :=
  s.buckets.entries.map fun e => ⟨e.1, e.2.createdAt⟩

/-- Removes all buckets. -/
def reset (s : Store) : Store := empty s.config

/-! ## Policies -/

/-- The policy of a bucket. -/
def policy (s : Store) (name : String) : Except Fault String := do
  let b ← s.bucket name
  match b.policy with
  | some text => .ok text
  | none => .error (.noSuchBucketPolicy name)

/-- Attaches a policy, which has to be JSON. -/
def putPolicy (s : Store) (name text : String) : Except Fault Store := do
  let b ← s.bucket name
  match Json.parse text with
  | .ok _ => .ok (s.withBucket name { b with policy := some text })
  | .error reason => .error (.malformedPolicy reason)

/-- Detaches the policy. -/
def deletePolicy (s : Store) (name : String) : Except Fault Store := do
  let b ← s.bucket name
  .ok (s.withBucket name { b with policy := none })

/-! ## Objects -/

/-- Stores an object; its entity tag comes with the new store. -/
def put (s : Store) (now : Instant) (name key : String) (body : List UInt8) :
    Except Fault (String × Store) := do
  checkObjectKey key
  let b ← s.bucket name
  .ok (entityTag body, s.withBucket name (b.put key (.ofBody body now)))

/-- The object under a key. -/
def object (s : Store) (name key : String) : Except Fault StoredObject := do
  let b ← s.bucket name
  match b.objects.get? key with
  | some o => .ok o
  | none => .error (.noSuchKey key)

/-- The body of an object. -/
def get (s : Store) (name key : String) : Except Fault (List UInt8) :=
  (s.object name key).map (·.body)

/-- Deletes an object; a key that is not there is no fault. -/
def delete (s : Store) (name key : String) : Except Fault Store := do
  let b ← s.bucket name
  .ok (s.withBucket name (b.delete key))

/-- Deletes several objects. -/
def deleteMany (s : Store) (name : String) (keys : List String) : Except Fault Store := do
  let b ← s.bucket name
  .ok (s.withBucket name (b.deleteMany keys))

/-- Copies an object. -/
def copy (s : Store) (now : Instant) (source target : ObjectLocation) : Except Fault Store := do
  checkObjectKey target.key
  let o ← s.object source.bucket source.key
  let b ← s.bucket target.bucket
  .ok (s.withBucket target.bucket (b.put target.key (.ofBody o.body now)))

/-- A page of objects. -/
def list (s : Store) (request : ListRequest) : Except Fault ObjectPage := do
  let b ← s.bucket request.bucket
  .ok (b.page request)

/-! ## URLs -/

/-- The path of an object below the endpoint. -/
def objectPath (o : ObjectLocation) : String := "/" ++ o.bucket ++ "/" ++ o.key

/-- What a URL for an object is signed for. -/
def presignRequest (s : Store) (o : ObjectLocation) (signedAt expiresAt : Instant) :
    PresignRequest where
  method := "GET"
  endpoint := s.config.endpoint
  path := objectPath o
  region := s.config.region
  credentials := .ofConfig s.config
  signedAt := signedAt
  expiresIn := expiresAt.wholeSecondsSince signedAt

/-- A signed URL for an object. -/
def presign (s : Store) (o : ObjectLocation) (signedAt expiresAt : Instant) :
    Except Fault String :=
  (Signing.presign (s.presignRequest o signedAt expiresAt)).mapError (·.toFault)

/-- The plain URL of an object. -/
def plainUrl (s : Store) (o : ObjectLocation) : String :=
  String.ofList (Text.dropEndWhile (· = '/') s.config.endpoint.toList ++
    Percent.encodePath (objectPath o).toList)

/-- Verifies a signed URL for a download at an instant. -/
def verify (s : Store) (url : String) (now : Instant) : Verdict :=
  verifyUrl "GET" url (.ofCredentials (.ofConfig s.config)) now

/-- The store for people. -/
def description (s : Store) : String :=
  "InMemoryGateway \x7b endpoint: " ++ Text.quote s.config.endpoint ++ ", bucket_count: " ++
    toString s.buckets.size ++ ", .. \x7d"

end Store

end ObjectAccess
