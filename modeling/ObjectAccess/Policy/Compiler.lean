import ObjectAccess.Policy.Document
import ObjectAccess.Policy.Resource
import ObjectAccess.Policy.Specification

/-!
# Compiling a specification

Each combination of groups has a row of rules, and each rule becomes one statement:
what is permitted on the bucket itself, the listing of the prefixes that may be
listed, and the access to the objects of each group.  Only the groups that read may
be listed, so the listing is conditioned on their paths.
-/

namespace ObjectAccess.Policy

set_option autoImplicit false

/-- A statement to be made. -/
inductive Rule where
  /-- Actions on the bucket itself. -/
  | onBucket (actions : List Action)
  /-- Listing under the paths of the groups that read. -/
  | listing
  /-- Access to the objects of one group. -/
  | onObjects (group : Group)
  deriving DecidableEq, Repr

/-- The groups whose paths may be listed. -/
def listable : List Group := [.read, .readWrite]

/-- What is permitted on the bucket if only reading is. -/
def location : List Action := [.getBucketLocation]

/-- What is permitted on the bucket where uploads go to. -/
def locationUploads : List Action := [.getBucketLocation, .listBucketMultipartUploads]

/-- What is permitted on the bucket where uploads go to and other groups read. -/
def locationListUploads : List Action :=
  [.getBucketLocation, .listBucket, .listBucketMultipartUploads]

/-- The statements of each combination. -/
def rules : Combination → List Rule
  | .read => [.onBucket location, .listing, .onObjects .read]
  | .write => [.onBucket locationUploads, .onObjects .write]
  | .readWrite => [.onBucket locationUploads, .listing, .onObjects .readWrite]
  | .readAndReadWrite =>
    [.onBucket locationUploads, .listing, .onObjects .readWrite, .onObjects .read]
  | .readWriteAndWrite =>
    [.onBucket locationListUploads, .listing, .onObjects .readWrite, .onObjects .write]
  | .readAndWrite => [.onBucket locationListUploads, .listing, .onObjects .read, .onObjects .write]
  | .readAndReadWriteAndWrite =>
    [.onBucket locationListUploads, .listing, .onObjects .readWrite, .onObjects .read,
      .onObjects .write]

/-- What a group permits on its objects. -/
def objectActions : Group → List Action
  | .read => [.getObject]
  | .write => [.putObject, .abortMultipartUpload, .deleteObject, .listMultipartUploadParts]
  | .readWrite =>
    [.getObject, .putObject, .abortMultipartUpload, .deleteObject, .listMultipartUploadParts]

/-- The statement that a rule makes. -/
def Rule.statement (s : Specification) (bucket : String) : Rule → Statement
  | .onBucket actions => .forAnyone actions [bucketResource bucket] none
  | .listing =>
    .forAnyone [.listBucket] [bucketResource bucket] (some ⟨listable.flatMap s.paths⟩)
  | .onObjects group =>
    .forAnyone (objectActions group) ((s.paths group).map (objectsResource bucket)) none

/-- The policy of a specification for a bucket; none if its groups form no combination. -/
def compile? (s : Specification) (bucket : String) : Option Document :=
  s.combination?.map fun c => .ofStatements ((rules c).map (Rule.statement s bucket))

/-- Why there is no policy. -/
inductive PolicyError where
  /-- The names in the specification form no combination. -/
  | unsupportedCombination (key : String)
  /-- The specification cannot be read, for the given reason. -/
  | invalidSpecification (reason : String)
  deriving DecidableEq, Repr

/-- The message of an error. -/
def PolicyError.message : PolicyError → String
  | .unsupportedCombination key => "unsupported permission combination: '" ++ key ++ "'"
  | .invalidSpecification reason => "invalid permission specification: " ++ reason

/-- The policy of a specification, or its key if there is none. -/
def compile (s : Specification) (bucket : String) : Except PolicyError Document :=
  match compile? s bucket with
  | some document => .ok document
  | none => .error (.unsupportedCombination s.key)

/-- Reads a specification from its text. -/
def readSpecification (text : String) : Except PolicyError Specification :=
  (Specification.ofText text).mapError .invalidSpecification

end ObjectAccess.Policy
