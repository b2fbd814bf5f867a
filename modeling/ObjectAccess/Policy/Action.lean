import ObjectAccess.Json.Failure

/-!
# Actions

The operations on a store that a policy can permit, with the names they have in a
policy text.
-/

namespace ObjectAccess.Policy

set_option autoImplicit false

/-- An operation that a policy permits. -/
inductive Action where
  | getBucketLocation
  | listBucket
  | listBucketMultipartUploads
  | getObject
  | putObject
  | abortMultipartUpload
  | deleteObject
  | listMultipartUploadParts
  deriving DecidableEq, Repr

namespace Action

/-- All actions. -/
def all : List Action :=
  [.getBucketLocation, .listBucket, .listBucketMultipartUploads, .getObject, .putObject,
    .abortMultipartUpload, .deleteObject, .listMultipartUploadParts]

/-- The name of an action in a policy. -/
def name : Action → String
  | .getBucketLocation => "s3:GetBucketLocation"
  | .listBucket => "s3:ListBucket"
  | .listBucketMultipartUploads => "s3:ListBucketMultipartUploads"
  | .getObject => "s3:GetObject"
  | .putObject => "s3:PutObject"
  | .abortMultipartUpload => "s3:AbortMultipartUpload"
  | .deleteObject => "s3:DeleteObject"
  | .listMultipartUploadParts => "s3:ListMultipartUploadParts"

/-- The actions with their names. -/
def named : List (String × Action) := all.map fun a => (a.name, a)

/-- The action with a name. -/
def ofName? (name : String) : Except Json.Cause Action :=
  match named.find? (·.1 = name) with
  | some (_, action) => .ok action
  | none => .error (.unknownVariant name (named.map (·.1)))

/-- The action that a JSON value stands for: its name, or an object that has the name as its only
member with `null` under it. -/
def ofValue? : Json.Value → Except Json.Cause Action
  | .text s => ofName? s
  | .object [(name, value)] => do
    let action ← ofName? name
    let refuse (found : Json.Found) : Except Json.Cause Action := .error (.wrongType found "unit")
    match value with
    | .null => .ok action
    | .boolean b => refuse (.boolean b)
    | .number n => refuse (.number n)
    | .text s => refuse (.text s)
    | .list _ => refuse .sequence
    | .object _ => refuse .map
  | .object _ => .error (.wrongValue .map "map with a single key")
  | .null => .error (.wrongType .null "string or map")
  | .boolean b => .error (.wrongType (.boolean b) "string or map")
  | .number n => .error (.wrongType (.number n) "string or map")
  | .list _ => .error (.wrongType .sequence "string or map")

end Action

end ObjectAccess.Policy
