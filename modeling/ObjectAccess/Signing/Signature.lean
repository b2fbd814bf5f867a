import ObjectAccess.Digest.Hmac
import ObjectAccess.Text.Hex
import ObjectAccess.Text.Pieces
import ObjectAccess.Text.Utf8

/-!
# Signatures

The key of a signature is derived from the secret key in four steps, one for each
part of its scope: day, region, service and a fixed end.  The signature is the keyed
digest of a text that names the algorithm, the time, the scope and the digest of
the canonical request.
-/

namespace ObjectAccess.Signing

set_option autoImplicit false

open ObjectAccess.Text ObjectAccess.Digest

/-- The name of the algorithm. -/
def algorithm : List Char := "AWS4-HMAC-SHA256".toList

/-- The service that URLs are signed for. -/
def service : List Char := "s3".toList

/-- The last part of every scope. -/
def scopeEnd : List Char := "aws4_request".toList

/-- What stands for the digest of a payload that is not signed. -/
def unsignedPayload : List Char := "UNSIGNED-PAYLOAD".toList

/-- What a signing key is good for. -/
structure Scope where
  date : List Char
  region : List Char
  service : List Char
  deriving DecidableEq, Repr

/-- The text of a scope. -/
def Scope.text (s : Scope) : List Char := join '/' [s.date, s.region, s.service, scopeEnd]

/-- The digest of octets in hexadecimal. -/
def payloadHash (payload : List UInt8) : List Char := Hex.encode (Sha256.digest payload)

/-- The text that is signed. -/
def stringToSign (stamp scope requestHash : List Char) : List Char :=
  join '\n' [algorithm, stamp, scope, requestHash]

/-- The key of a scope. -/
def signingKey (secret : List Char) (scope : Scope) : List UInt8 :=
  [scope.date, scope.region, scope.service, scopeEnd].foldl
    (fun key part => Hmac.sha256 key (octets part)) (octets ("AWS4".toList ++ secret))

/-- The signature of a text. -/
def signature (key : List UInt8) (text : List Char) : List Char :=
  Hex.encode (Hmac.sha256 key (octets text))

/-- The signature of a canonical request made at a time in a scope. -/
def requestSignature (secret stamp : List Char) (scope : Scope) (canonical : List Char) :
    List Char :=
  signature (signingKey secret scope)
    (stringToSign stamp scope.text (payloadHash (octets canonical)))

end ObjectAccess.Signing
