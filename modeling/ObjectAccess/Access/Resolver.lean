import ObjectAccess.Access.Backend
import ObjectAccess.Access.Registry

/-!
# URLs for objects

An object on a public path has a plain URL that never expires.  Any other object
gets a signed URL, valid until a given instant or for the usual lifetime from now.
-/

namespace ObjectAccess

set_option autoImplicit false

open ObjectAccess.Time

/-- A backend together with the public paths that clients share. -/
structure Service (σ : Type) where
  registry : Registry
  backend : σ

/-- A task of the backend, as one of the service. -/
def Service.onBackend {σ α : Type} (task : Task σ α) : Task (Service σ) α :=
  .of fun s =>
    match task.start s.backend with
    | (outcome, after) => (outcome, { s with backend := after })

/-- How a URL opens an object. -/
inductive UrlAccess where
  /-- Everyone may use the URL, for ever. -/
  | free
  /-- The URL is signed and valid until the instant. -/
  | signed (expiresAt : Instant)
  deriving DecidableEq

/-- A URL for an object. -/
structure ResolvedUrl where
  url : String
  access : UrlAccess
  deriving DecidableEq

namespace ResolvedUrl

/-- Whether everyone may use the URL. -/
def isFree (r : ResolvedUrl) : Bool := r.access = .free

/-- Until when a signed URL is valid. -/
def expiresAt? (r : ResolvedUrl) : Option Instant :=
  match r.access with
  | .free => none
  | .signed t => some t

end ResolvedUrl

/-- Decides which URL an object gets. -/
structure Resolver where
  /-- How long a signed URL is valid when no instant is given. -/
  lifetime : Lifetime
  deriving DecidableEq

namespace Resolver

variable {σ : Type} [Backend σ]

/-- The resolver with a lifetime in seconds. -/
def ofSeconds (seconds : Nat) : Resolver := ⟨.ofSeconds seconds⟩

/-- The resolver that holds where nothing else is said. -/
def standard : Resolver := ofSeconds Config.standard.urlExpirySeconds

/-- The instant until which a URL is to be valid. -/
def expiry (r : Resolver) (expiresAt : Option Instant) (now : Instant) : Except Fault Instant :=
  match expiresAt with
  | some t => .ok t
  | none =>
    match now.add? r.lifetime with
    | some t => .ok t
    | none =>
      .error (.invalidRequest ("default url ttl " ++ r.lifetime.text ++ " overflows the clock"))

/-- A signed URL, whether or not the path is public. -/
def signedUrl (r : Resolver) (object : ObjectLocation) (expiresAt : Option Instant)
    (now : Instant) : Task (Service σ) ResolvedUrl := do
  let expiry ← Task.look fun _ => r.expiry expiresAt now
  let url ← Service.onBackend (Backend.presign object now expiry)
  return ⟨url, .signed expiry⟩

/-- The URL of an object: the plain one if its path is public, a signed one otherwise. -/
def url (r : Resolver) (object : ObjectLocation) (expiresAt : Option Instant) (now : Instant) :
    Task (Service σ) ResolvedUrl := do
  let isPublic ← Task.look fun s : Service σ => .ok (s.registry.isPublic object.bucket object.key)
  if isPublic then
    let url ← Service.onBackend (Backend.plainUrl object)
    return ⟨url, .free⟩
  else
    let expiry ← Task.look fun _ => r.expiry expiresAt now
    let url ← Service.onBackend (Backend.presign object now expiry)
    return ⟨url, .signed expiry⟩

end Resolver

end ObjectAccess
