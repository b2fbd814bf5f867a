import ObjectAccess.Json.Printer
import ObjectAccess.Time.Stamp

/-!
# Listings

What a store says about its buckets and objects, and how it is asked for a page of
them.  Summaries are written as JSON for callers that pass them on.
-/

namespace ObjectAccess

set_option autoImplicit false

open ObjectAccess.Time

/-- The most objects on a page. -/
def maxPageSize : Nat := 1000

/-- A bucket and a key in it. -/
structure ObjectLocation where
  bucket : String
  key : String
  deriving DecidableEq, Repr

/-- What a listing says about a bucket. -/
structure BucketSummary where
  name : String
  createdAt : Instant
  deriving DecidableEq

/-- What a listing says about an object. -/
structure ObjectSummary where
  key : String
  /-- The size in octets. -/
  size : Nat
  modifiedAt : Instant
  /-- The entity tag, with its quotes. -/
  etag : String
  deriving DecidableEq

/-- A request for a page of objects. -/
structure ListRequest where
  bucket : String
  /-- Only keys that start with this text. -/
  keyStart : String := ""
  /-- Only keys after this one. -/
  marker : Option String := none
  /-- The size of the page, of which no more than `maxPageSize` counts. -/
  maxKeys : Nat := maxPageSize
  deriving DecidableEq, Repr

/-- A page of objects in the order of their keys. -/
structure ObjectPage where
  objects : List ObjectSummary
  /-- Whether there are more objects. -/
  isTruncated : Bool
  /-- After which key the next page starts, if there is one. -/
  nextMarker : Option String
  deriving DecidableEq

/-- A bucket summary as JSON. -/
def BucketSummary.toJson (s : BucketSummary) : Json.Value :=
  .object [("name", .text s.name), ("creationDate", .text (String.ofList s.createdAt.listed))]

/-- An object summary as JSON. -/
def ObjectSummary.toJson (s : ObjectSummary) : Json.Value :=
  .object [("key", .text s.key), ("size", .integer s.size),
    ("lastModified", .text (String.ofList s.modifiedAt.listed)), ("etag", .text s.etag)]

end ObjectAccess
