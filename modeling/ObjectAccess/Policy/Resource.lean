/-!
# Resource names

A policy names a bucket, or all objects of a bucket whose key starts with a given
text, by a resource name.
-/

namespace ObjectAccess.Policy

set_option autoImplicit false

/-- The resource name of a bucket. -/
def bucketResource (bucket : String) : String := "arn:aws:s3:::" ++ bucket

/-- The resource name of the objects under a path. -/
def objectsResource (bucket path : String) : String :=
  bucketResource bucket ++ "/" ++ path ++ "*"

end ObjectAccess.Policy
