/-!
# Faults

Why an operation on the object store failed: the kind of the failure, the status
number that goes with it, and a message.  Every kind has a usual status; a backend
may report another one.
-/

namespace ObjectAccess

set_option autoImplicit false

/-- What went wrong. -/
inductive FaultKind where
  /-- The bucket does not exist. -/
  | noSuchBucket
  /-- The key does not exist. -/
  | noSuchKey
  /-- The bucket has no policy. -/
  | noSuchBucketPolicy
  /-- The bucket exists already. -/
  | bucketAlreadyOwned
  /-- The bucket still holds objects. -/
  | bucketNotEmpty
  /-- The bucket name breaks the naming rules. -/
  | invalidBucketName
  /-- The request is malformed or misses a value. -/
  | invalidRequest
  /-- The policy is not JSON. -/
  | malformedPolicy
  /-- The credentials or the operation were refused. -/
  | accessDenied
  /-- Any other failure of the backend. -/
  | internal
  deriving DecidableEq, Repr

/-- The usual status of a kind. -/
def FaultKind.status : FaultKind → Nat
  | .noSuchBucket | .noSuchKey | .noSuchBucketPolicy => 404
  | .bucketAlreadyOwned | .bucketNotEmpty => 409
  | .invalidBucketName | .invalidRequest | .malformedPolicy => 400
  | .accessDenied => 403
  | .internal => 500

/-- The code of a kind. -/
def FaultKind.code : FaultKind → String
  | .noSuchBucket => "NoSuchBucket"
  | .noSuchKey => "NoSuchKey"
  | .noSuchBucketPolicy => "NoSuchBucketPolicy"
  | .bucketAlreadyOwned => "BucketAlreadyOwnedByYou"
  | .bucketNotEmpty => "BucketNotEmpty"
  | .invalidBucketName => "InvalidBucketName"
  | .invalidRequest => "InvalidRequest"
  | .malformedPolicy => "MalformedPolicy"
  | .accessDenied => "AccessDenied"
  | .internal => "InternalError"

/-- A failed operation. -/
structure Fault where
  kind : FaultKind
  status : Nat
  message : String
  deriving DecidableEq, Repr

namespace Fault

/-- A fault with the usual status of its kind. -/
def ofKind (kind : FaultKind) (message : String) : Fault := ⟨kind, kind.status, message⟩

/-- The fault in one line: code, status and message. -/
def summary (f : Fault) : String :=
  f.kind.code ++ " (" ++ toString f.status ++ "): " ++ f.message

/-- The bucket does not exist. -/
def noSuchBucket (bucket : String) : Fault :=
  ofKind .noSuchBucket ("The specified bucket does not exist: " ++ bucket)

/-- The key does not exist. -/
def noSuchKey (key : String) : Fault :=
  ofKind .noSuchKey ("The specified key does not exist: " ++ key)

/-- The bucket has no policy. -/
def noSuchBucketPolicy (bucket : String) : Fault :=
  ofKind .noSuchBucketPolicy ("The bucket policy does not exist: " ++ bucket)

/-- The bucket exists already. -/
def bucketAlreadyOwned (bucket : String) : Fault :=
  ofKind .bucketAlreadyOwned
    ("Your previous request to create the named bucket succeeded and you already own it: "
      ++ bucket)

/-- The bucket still holds objects. -/
def bucketNotEmpty (bucket : String) : Fault :=
  ofKind .bucketNotEmpty ("The bucket you tried to delete is not empty: " ++ bucket)

/-- No bucket was named and there is no default one. -/
def bucketNotSet : Fault := ofKind .invalidRequest "need to set bucket"

/-- An argument of the request is not valid. -/
def invalidRequest (message : String) : Fault := ofKind .invalidRequest message

/-- A policy is not JSON, for the given reason. -/
def malformedPolicy (reason : String) : Fault :=
  ofKind .malformedPolicy ("policies must be valid JSON: " ++ reason)

end Fault

end ObjectAccess
