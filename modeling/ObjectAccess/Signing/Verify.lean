import ObjectAccess.Signing.Presign
import ObjectAccess.Url.RequestTarget

/-!
# Verification of signed requests

A request with a signature in its query is accepted if its parameters can be read,
its time is not over, its signer is known, every header it claims to have signed
is there, and the signature is the one that the signer's secret makes.  The checks
come in this order, and the first that fails is reported.

The expiry is computed before anything else is known about the signer, and it can
lie past the last instant of the calendar: then there is no verdict.
-/

namespace ObjectAccess.Signing

set_option autoImplicit false

open ObjectAccess.Text ObjectAccess.Time ObjectAccess.Url

/-- What the query of a signed request says. -/
structure SignedParameters where
  accessKey : List Char
  scope : Scope
  signedAt : Instant
  /-- The seconds of validity. -/
  expiresIn : Int
  signedHeaders : List (List Char)
  signature : List Char

/-- The decoded value of a parameter; of several with one name the last one counts. -/
def parameter? (query : List Char) (name : String) : Option (List Char) :=
  (((pieces '&' query).filterMap (cut? '=')).reverse.find? fun p => p.1 = name.toList).map
    fun p => Percent.decode p.2

namespace SignedParameters

/-- The value of a parameter that has to be there. -/
def required (query : List Char) (name : String) : Except SigningError (List Char) :=
  match parameter? query name with
  | some value => .ok value
  | none => .error (.missingParameter name)

/-- The parts of a credential: the access key and the scope. -/
def readCredential (text : List Char) : Except SigningError (List Char × Scope) :=
  match piecesUpTo '/' 5 text with
  | [accessKey, date, region, service, last] =>
    if last = scopeEnd then .ok (accessKey, ⟨date, region, service⟩) else .error .invalidCredential
  | _ => .error .invalidCredential

/-- The seconds of validity. -/
def readExpiry (text : List Char) : Except SigningError Int :=
  match Decimal.readSigned? text with
  | none => .error (.invalidParameter ("X-Amz-Expires=" ++ String.ofList text))
  | some seconds => if isExpiry seconds then .ok seconds else .error (.invalidExpiry seconds)

/-- The time of signing. -/
def readSigningTime (text : List Char) : Except SigningError Instant :=
  match Instant.ofStamp? text with
  | none => .error (.invalidParameter ("X-Amz-Date=" ++ String.ofList text))
  | some t => .ok t

/-- Reads the parameters of a query. -/
def ofQuery (query : List Char) : Except SigningError SignedParameters := do
  let algorithmName ← required query "X-Amz-Algorithm"
  if algorithmName ≠ algorithm then .error (.unsupportedAlgorithm (String.ofList algorithmName))
  else
    let credential ← required query "X-Amz-Credential"
    let (accessKey, scope) ← readCredential credential
    let date ← required query "X-Amz-Date"
    let signedAt ← readSigningTime date
    let expires ← required query "X-Amz-Expires"
    let expiresIn ← readExpiry expires
    let signedHeaders ← required query "X-Amz-SignedHeaders"
    let signature ← required query "X-Amz-Signature"
    .ok ⟨accessKey, scope, signedAt, expiresIn, pieces ';' signedHeaders, signature⟩

/-- The last instant of validity, if the calendar has it. -/
def expiresAt? (p : SignedParameters) : Option Instant :=
  p.signedAt.add? ⟨p.expiresIn.toNat, 0⟩

end SignedParameters

/-- Who signed an accepted request. -/
structure Identity where
  accessKey : String
  region : String
  service : String
  /-- The last instant at which the request is accepted. -/
  expiresAt : Instant
  deriving DecidableEq

/-- What verification comes to. -/
inductive Verdict where
  | accepted (signer : Identity)
  | refused (reason : SigningError)
  /-- The expiry lies outside the calendar. -/
  | outsideCalendar
  deriving DecidableEq

/-- A request to be verified. -/
structure SignedRequest where
  method : String
  path : String
  query : String
  headers : List Header

namespace SignedRequest

/-- Whether a header value is text: visible ASCII characters, spaces and tabs. -/
def isHeaderText (value : List Char) : Bool :=
  value.all fun c => (' ' ≤ c && c ≤ '~') || c = '\t'

/-- The value of the first header of a name, in any case, if it is text. -/
def header? (headers : List Header) (name : List Char) : Option (List Char) :=
  ((headers.find? fun h => h.1.map Char.toLower = name.map Char.toLower).map (·.2)).filter
    isHeaderText

/-- The signed headers of a request, or the first name that has none. -/
def collectHeaders (headers : List Header) :
    List (List Char) → Except SigningError (List Header)
  | [] => .ok []
  | name :: names =>
    match header? headers name with
    | none => .error (.missingHeader (String.ofList name))
    | some value => (collectHeaders headers names).map ((name, value) :: ·)

/-- The query without its signature. -/
def unsignedQuery (query : List Char) : List Char :=
  join '&' ((pieces '&' query).filter fun piece => !"X-Amz-Signature=".toList.isPrefixOf piece)

/-- The signature that a request should have. -/
def expectedSignature (r : SignedRequest) (p : SignedParameters) (headers : List Header)
    (secret : List Char) : List Char :=
  requestSignature secret p.signedAt.stamp p.scope
    (Request.canonical
      { method := r.method.toList
        path := r.path.toList
        query := unsignedQuery r.query.toList
        headers := headers
        signed := p.signedHeaders
        payloadHash := unsignedPayload })

/-- Checks the signer and the signature of a request that has not expired. -/
def checkSignature (r : SignedRequest) (p : SignedParameters) (keyring : Keyring)
    (expiresAt : Instant) : Except SigningError Identity := do
  let accessKey := String.ofList p.accessKey
  let secret ← keyring accessKey
  let headers ← collectHeaders r.headers p.signedHeaders
  if r.expectedSignature p headers secret.toList = p.signature then
    .ok ⟨accessKey, String.ofList p.scope.region, String.ofList p.scope.service, expiresAt⟩
  else .error .signatureMismatch

/-- Verifies a request at an instant. -/
def verify (r : SignedRequest) (keyring : Keyring) (now : Instant) : Verdict :=
  match SignedParameters.ofQuery r.query.toList with
  | .error e => .refused e
  | .ok p =>
    match p.expiresAt? with
    | none => .outsideCalendar
    | some expiresAt =>
      if expiresAt.isBefore now then .refused .expired
      else
        match r.checkSignature p keyring expiresAt with
        | .ok signer => .accepted signer
        | .error e => .refused e

end SignedRequest

/-- Verifies the request that a client makes with a signed URL: its host header is the authority
of the URL. -/
def verifyUrl (method url : String) (keyring : Keyring) (now : Instant) : Verdict :=
  match RequestTarget.read url with
  | .error e => .refused (.invalidEndpoint (url ++ ": " ++ e.message))
  | .ok target =>
    match target.authority with
    | none => .refused (.invalidEndpoint url)
    | some authority =>
      SignedRequest.verify
        ⟨method, target.path, target.query.getD "", [("host".toList, authority.toList)]⟩ keyring now

end ObjectAccess.Signing
