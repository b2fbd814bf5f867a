import ObjectAccess.Fault

/-!
# Failures of signing and verification

Why a URL cannot be signed, or why a signed request is not accepted.  A storage
operation reports a refused key, signature or expiry as denied access, and every other
failure as an invalid request.
-/

namespace ObjectAccess.Signing

set_option autoImplicit false

/-- Why a URL is not signed or a signed request not accepted. -/
inductive SigningError where
  /-- A query parameter is absent. -/
  | missingParameter (name : String)
  /-- A query parameter cannot be read. -/
  | invalidParameter (parameter : String)
  /-- The signature is made by an unknown algorithm. -/
  | unsupportedAlgorithm (name : String)
  /-- The credential does not have five parts with the right last one. -/
  | invalidCredential
  /-- A signed header is not in the request. -/
  | missingHeader (name : String)
  /-- Nobody has this access key. -/
  | unknownAccessKey (key : String)
  /-- The signature is not the expected one. -/
  | signatureMismatch
  /-- The time of validity is over. -/
  | expired
  /-- The time of validity is shorter or longer than allowed. -/
  | invalidExpiry (seconds : Int)
  /-- The endpoint is no absolute URL with a host. -/
  | invalidEndpoint (reason : String)
  deriving DecidableEq, Repr

namespace SigningError

/-- The message of an error. -/
def message : SigningError → String
  | .missingParameter name => "Missing required query parameter: " ++ name
  | .invalidParameter parameter => "Invalid query parameter: " ++ parameter
  | .unsupportedAlgorithm name => "Unsupported algorithm: " ++ name
  | .invalidCredential => "Invalid credential format"
  | .missingHeader name => "Missing required header: " ++ name
  | .unknownAccessKey key => "Access key not found: " ++ key
  | .signatureMismatch => "Signature does not match"
  | .expired => "Request has expired"
  | .invalidExpiry seconds =>
    "Expiry must be between 1 and 604800 seconds, got " ++ toString seconds
  | .invalidEndpoint reason => "Invalid endpoint: " ++ reason

/-- The kind of fault that a storage operation reports. -/
def faultKind : SigningError → FaultKind
  | .unknownAccessKey _ | .signatureMismatch | .expired => .accessDenied
  | _ => .invalidRequest

/-- The fault that a storage operation reports. -/
def toFault (e : SigningError) : Fault := .ofKind e.faultKind e.message

end SigningError

end ObjectAccess.Signing
