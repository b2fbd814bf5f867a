import ObjectAccess.Config
import ObjectAccess.Signing.Error

/-!
# Key pairs

An access key names a signer, and the secret key that belongs to it makes the
signatures.  The text of a key pair for people never shows the secret.
-/

namespace ObjectAccess.Signing

set_option autoImplicit false

open ObjectAccess.Text

/-- A key pair. -/
structure Credentials where
  accessKey : String
  secretKey : String
  deriving DecidableEq, Repr

/-- The key pair for people. -/
def Credentials.description (c : Credentials) : String :=
  "Credentials \x7b access_key: " ++ quote c.accessKey ++ ", secret_key: " ++ Config.withheld ++
    " \x7d"

/-- Finds the secret key that belongs to an access key, or fails for a reason of its own. -/
abbrev Keyring := String → Except SigningError String

/-- The keyring of several key pairs; of pairs with one access key the last one counts. -/
def Keyring.ofList (pairs : List Credentials) : Keyring :=
  fun key =>
    match pairs.reverse.find? fun c => c.accessKey = key with
    | some c => .ok c.secretKey
    | none => .error (.unknownAccessKey key)

/-- The keyring of one key pair. -/
def Keyring.ofCredentials (c : Credentials) : Keyring := .ofList [c]

/-- The key pair of a configuration. -/
def Credentials.ofConfig (c : Config) : Credentials := ⟨c.accessKey, c.secretKey⟩

end ObjectAccess.Signing
