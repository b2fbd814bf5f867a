import ObjectAccess.Digest.Md5
import ObjectAccess.Directory
import ObjectAccess.Listing
import ObjectAccess.Text.Hex

/-!
# Buckets

A bucket holds its objects by key and may have a policy.  A page of a listing is
taken from the objects whose key comes after the marker and starts with the given
text; it is truncated if one such object is left over, and then the next page
starts after its last key.
-/

namespace ObjectAccess

set_option autoImplicit false

open ObjectAccess.Time

/-- An object. -/
structure StoredObject where
  body : List UInt8
  etag : String
  modifiedAt : Instant
  deriving DecidableEq

/-- The entity tag of a body: its digest between quotes. -/
def entityTag (body : List UInt8) : String :=
  String.ofList ('"' :: (Hex.encode (Digest.Md5.digest body) ++ ['"']))

/-- The object with a body, stored at an instant. -/
def StoredObject.ofBody (body : List UInt8) (now : Instant) : StoredObject :=
  ⟨body, entityTag body, now⟩

/-- What a listing says about an object. -/
def StoredObject.summary (key : String) (o : StoredObject) : ObjectSummary :=
  ⟨key, o.body.length, o.modifiedAt, o.etag⟩

/-- A bucket. -/
structure Bucket where
  createdAt : Instant
  policy : Option String
  objects : Directory StoredObject

namespace Bucket

/-- A new bucket. -/
def new (now : Instant) : Bucket := ⟨now, none, Directory.empty⟩

/-- The bucket with an object under a key. -/
def put (b : Bucket) (key : String) (o : StoredObject) : Bucket :=
  { b with objects := b.objects.insert key o }

/-- The bucket without a key. -/
def delete (b : Bucket) (key : String) : Bucket := { b with objects := b.objects.erase key }

/-- The bucket without several keys. -/
def deleteMany (b : Bucket) (keys : List String) : Bucket := keys.foldl delete b

/-- Whether an object belongs to a listing. -/
def isListed (request : ListRequest) (key : String) : Bool :=
  request.keyStart.toList.isPrefixOf key.toList &&
    match request.marker with
    | some marker => decide (marker < key)
    | none => true

/-- The objects of a listing, in the order of their keys. -/
def matching (b : Bucket) (request : ListRequest) : List ObjectSummary :=
  (b.objects.entries.filter fun e => isListed request e.1).map fun e => e.2.summary e.1

/-- The first page of a listing. -/
def page (b : Bucket) (request : ListRequest) : ObjectPage :=
  let size := min request.maxKeys maxPageSize
  let objects := (b.matching request).take size
  let isTruncated := !((b.matching request).drop size).isEmpty
  ⟨objects, isTruncated, if isTruncated then objects.getLast?.map (·.key) else none⟩

end Bucket

end ObjectAccess
