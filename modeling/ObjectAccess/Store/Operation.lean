import ObjectAccess.Store.Basic

/-!
# Operations on a store

Every operation on a store as data, with the clock readings it uses, and what each
one answers.  Running an operation gives its answer and the store after it; a
failed operation leaves the store as it was.
-/

namespace ObjectAccess.Store

set_option autoImplicit false

open ObjectAccess.Time ObjectAccess.Signing

/-- An operation on a store. -/
inductive Operation where
  | createBucket (now : Instant) (bucket : String)
  | deleteBucket (bucket : String)
  | bucketExists (bucket : String)
  | listBuckets
  | reset
  | policy (bucket : String)
  | putPolicy (bucket text : String)
  | deletePolicy (bucket : String)
  | put (now : Instant) (bucket key : String) (body : List UInt8)
  | get (bucket key : String)
  | delete (bucket key : String)
  | deleteMany (bucket : String) (keys : List String)
  | copy (now : Instant) (source target : ObjectLocation)
  | list (request : ListRequest)
  | presign (object : ObjectLocation) (signedAt expiresAt : Instant)
  | plainUrl (object : ObjectLocation)
  | verify (url : String) (now : Instant)
  | describe

/-- What an operation answers. -/
inductive Answer where
  | done
  | truth (b : Bool)
  | text (s : String)
  | body (octets : List UInt8)
  | buckets (summaries : List BucketSummary)
  | page (p : ObjectPage)
  | signer (who : Identity)
  /-- The expiry to be checked lies outside the calendar. -/
  | noVerdict
  /-- The store and its configuration for people. -/
  | descriptions (store config : String)

/-- The answer to a verification. -/
def answerOfVerdict : Verdict → Except Fault Answer
  | .accepted signer => .ok (.signer signer)
  | .refused reason => .error reason.toFault
  | .outsideCalendar => .ok .noVerdict

/-- The answer of an operation and the store after it. -/
def perform (s : Store) : Operation → Except Fault (Answer × Store)
  | .createBucket now bucket => (s.createBucket now bucket).map fun s => (.done, s)
  | .deleteBucket bucket => (s.deleteBucket bucket).map fun s => (.done, s)
  | .bucketExists bucket => .ok (.truth (s.bucketExists bucket), s)
  | .listBuckets => .ok (.buckets s.listBuckets, s)
  | .reset => .ok (.done, s.reset)
  | .policy bucket => (s.policy bucket).map fun text => (.text text, s)
  | .putPolicy bucket text => (s.putPolicy bucket text).map fun s => (.done, s)
  | .deletePolicy bucket => (s.deletePolicy bucket).map fun s => (.done, s)
  | .put now bucket key body => (s.put now bucket key body).map fun (etag, s) => (.text etag, s)
  | .get bucket key => (s.get bucket key).map fun octets => (.body octets, s)
  | .delete bucket key => (s.delete bucket key).map fun s => (.done, s)
  | .deleteMany bucket keys => (s.deleteMany bucket keys).map fun s => (.done, s)
  | .copy now source target => (s.copy now source target).map fun s => (.done, s)
  | .list request => (s.list request).map fun p => (.page p, s)
  | .presign object signedAt expiresAt =>
    (s.presign object signedAt expiresAt).map fun url => (.text url, s)
  | .plainUrl object => .ok (.text (s.plainUrl object), s)
  | .verify url now => (answerOfVerdict (s.verify url now)).map fun a => (a, s)
  | .describe => .ok (.descriptions s.description s.config.description, s)

/-- Runs an operation; after a fault the store is what it was. -/
def run (s : Store) (op : Operation) : Except Fault Answer × Store :=
  match s.perform op with
  | .ok (answer, after) => (.ok answer, after)
  | .error fault => (.error fault, s)

/-- The store after a sequence of operations. -/
def runAll (s : Store) (ops : List Operation) : Store := ops.foldl (fun s op => (s.run op).2) s

end ObjectAccess.Store
