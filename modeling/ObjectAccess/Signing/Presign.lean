import ObjectAccess.Signing.CanonicalRequest
import ObjectAccess.Signing.Credentials
import ObjectAccess.Signing.Error
import ObjectAccess.Signing.Signature
import ObjectAccess.Time.Stamp
import ObjectAccess.Url.Endpoint

/-!
# Signed URLs

A signed URL carries in its query who signed it, when, for how long and which
headers count, and last the signature over all of that.  Only the host is signed as a
header, and the payload is not signed.
-/

namespace ObjectAccess.Signing

set_option autoImplicit false

open ObjectAccess.Text ObjectAccess.Time ObjectAccess.Url

/-- The longest validity in seconds: seven days. -/
def maxExpirySeconds : Int := 604800

/-- Whether a URL may be valid for that many seconds. -/
def isExpiry (seconds : Int) : Bool := 1 ≤ seconds && seconds ≤ maxExpirySeconds

/-- What a URL is signed for. -/
structure PresignRequest where
  method : String
  endpoint : String
  /-- The path below the endpoint, without escapes. -/
  path : String
  region : String
  credentials : Credentials
  signedAt : Instant
  /-- The seconds of validity. -/
  expiresIn : Int

namespace PresignRequest

/-- The scope of the signature. -/
def scope (r : PresignRequest) : Scope := ⟨r.signedAt.dateStamp, r.region.toList, service⟩

/-- The parameters that are signed, in order. -/
def parameters (r : PresignRequest) : List Parameter :=
  [("X-Amz-Algorithm".toList, algorithm),
    ("X-Amz-Credential".toList, r.credentials.accessKey.toList ++ '/' :: r.scope.text),
    ("X-Amz-Date".toList, r.signedAt.stamp),
    ("X-Amz-Expires".toList, Decimal.ofInt r.expiresIn),
    ("X-Amz-SignedHeaders".toList, "host".toList)]

/-- The query that is signed. -/
def query (r : PresignRequest) : List Char :=
  join '&' (r.parameters.map fun p => p.1 ++ '=' :: Percent.encode p.2)

/-- The path of the URL: that of the endpoint without slashes at its end, then the escaped
path. -/
def urlPath (r : PresignRequest) (endpoint : Endpoint) : List Char :=
  dropEndWhile (· = '/') endpoint.path ++ Percent.encodePath r.path.toList

/-- The request that is signed. -/
def request (r : PresignRequest) (endpoint : Endpoint) (host : List Char) : Request where
  method := r.method.toList
  path := r.urlPath endpoint
  query := r.query
  headers := [("host".toList, host)]
  signed := ["host".toList]
  payloadHash := unsignedPayload

/-- The signature of the URL. -/
def signatureFor (r : PresignRequest) (endpoint : Endpoint) (host : List Char) : List Char :=
  requestSignature r.credentials.secretKey.toList r.signedAt.stamp r.scope
    (r.request endpoint host).canonical

/-- The signed URL for an endpoint with a host. -/
def url (r : PresignRequest) (endpoint : Endpoint) (host : List Char) : List Char :=
  endpoint.scheme.toList ++ ':' :: '/' :: '/' :: (host ++ r.urlPath endpoint ++ '?' ::
    (r.query ++ "&X-Amz-Signature=".toList ++ r.signatureFor endpoint host))

end PresignRequest

/-- Signs a URL. -/
def presign (r : PresignRequest) : Except SigningError String :=
  if isExpiry r.expiresIn = false then .error (.invalidExpiry r.expiresIn)
  else
    match Endpoint.read r.endpoint with
    | .error e => .error (.invalidEndpoint (r.endpoint ++ ": " ++ e.message))
    | .ok endpoint =>
      match endpoint.hostHeader? with
      | none => .error (.invalidEndpoint r.endpoint)
      | some host => .ok (String.ofList (r.url endpoint host))

end ObjectAccess.Signing
