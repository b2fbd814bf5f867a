import ObjectAccess.Json.Printer
import ObjectAccess.Json.Record
import ObjectAccess.Text.Decimal
import ObjectAccess.Text.Quoted

/-!
# Configuration

Where the object store is, with which key pair URLs are signed and for how long
they are valid.  A configuration is read from named variables, where each setting
has a default, or from a JSON record, where every setting is required.
-/

namespace ObjectAccess

set_option autoImplicit false

open ObjectAccess.Text

/-- The settings. -/
structure Config where
  /-- The base URL of the object store. -/
  endpoint : String
  /-- The region that signatures are made for. -/
  region : String
  accessKey : String
  secretKey : String
  /-- The bucket of an operation that names none; empty if there is no default. -/
  bucket : String
  /-- How many seconds a signed URL is valid when nothing else is asked for. -/
  urlExpirySeconds : Nat
  logLevel : String
  deriving DecidableEq, Repr

namespace Config

/-- The settings that hold where nothing else is said. -/
def standard : Config where
  endpoint := "http://127.0.0.1:9000"
  region := "us-east-1"
  accessKey := "minioadmin"
  secretKey := "minioadmin"
  bucket := ""
  urlExpirySeconds := 86400
  logLevel := "info"

instance : Inhabited Config := ⟨standard⟩

/-- Reads the settings from variables.  A number that cannot be read counts as not given. -/
def ofVariables (lookup : String → Option String) : Config where
  endpoint := (lookup "S3_ENDPOINT_URL").getD standard.endpoint
  region := (lookup "DEFAULT_REGION").getD standard.region
  accessKey := (lookup "ACCESS_KEY" <|> lookup "AWS_ACCESS_KEY_ID").getD standard.accessKey
  secretKey :=
    (lookup "SECRET_KEY" <|> lookup "AWS_SECRET_ACCESS_KEY").getD standard.secretKey
  bucket := (lookup "S3_BUCKET").getD standard.bucket
  urlExpirySeconds :=
    ((lookup "URL_EXPIRE_SECONDS").bind fun v => Decimal.readWord? v.toList).getD
      standard.urlExpirySeconds
  logLevel := (lookup "LOG_LEVEL").getD standard.logLevel

/-- The names of the variables that a configuration is read from. -/
def variableNames : List String :=
  ["S3_ENDPOINT_URL", "DEFAULT_REGION", "ACCESS_KEY", "AWS_ACCESS_KEY_ID", "SECRET_KEY",
    "AWS_SECRET_ACCESS_KEY", "S3_BUCKET", "URL_EXPIRE_SECONDS", "LOG_LEVEL"]

/-- What stands in place of a secret in texts for people. -/
def withheld : String := quote "<redacted>"

/-- The settings for people, without the secret. -/
def description (c : Config) : String :=
  "GateConfig \x7b endpoint: " ++ quote c.endpoint ++ ", region: " ++ quote c.region ++
    ", access_key: " ++ quote c.accessKey ++ ", secret_key: " ++ withheld ++
    ", bucket: " ++ quote c.bucket ++ ", url_expiry_secs: " ++ toString c.urlExpirySeconds ++
    ", log_level: " ++ quote c.logLevel ++ " \x7d"

/-- The settings as a JSON record. -/
def toJson (c : Config) : Json.Value :=
  .object [("endpoint", .text c.endpoint), ("region", .text c.region),
    ("accessKey", .text c.accessKey), ("secretKey", .text c.secretKey),
    ("bucket", .text c.bucket), ("urlExpirySecs", .integer c.urlExpirySeconds),
    ("logLevel", .text c.logLevel)]

/-- The settings read so far. -/
structure Draft where
  endpoint : Option String := none
  region : Option String := none
  accessKey : Option String := none
  secretKey : Option String := none
  bucket : Option String := none
  urlExpirySeconds : Option Nat := none
  logLevel : Option String := none

/-- A required setting: how it is looked up and set, and how its value is read. -/
def setting {α : Type} (name : String) (value : Json.Decoder α) (get : Draft → Option α)
    (set : Draft → α → Draft) : Json.RecordField Draft where
  name := name
  isSet d := (get d).isSome
  read d text := (value text).map fun (x, rest) => (set d x, rest)
  mayMiss := false

/-- The JSON record of a configuration. -/
def shape : Json.Shape Draft Config where
  name := "GateConfig"
  blank := {}
  fields := [
    setting "endpoint" Json.string (·.endpoint) fun d x => { d with endpoint := some x },
    setting "region" Json.string (·.region) fun d x => { d with region := some x },
    setting "accessKey" Json.string (·.accessKey) fun d x => { d with accessKey := some x },
    setting "secretKey" Json.string (·.secretKey) fun d x => { d with secretKey := some x },
    setting "bucket" Json.string (·.bucket) fun d x => { d with bucket := some x },
    setting "urlExpirySecs" Json.word (·.urlExpirySeconds)
      fun d x => { d with urlExpirySeconds := some x },
    setting "logLevel" Json.string (·.logLevel) fun d x => { d with logLevel := some x }]
  build d := do
    return {
      endpoint := ← d.endpoint
      region := ← d.region
      accessKey := ← d.accessKey
      secretKey := ← d.secretKey
      bucket := ← d.bucket
      urlExpirySeconds := ← d.urlExpirySeconds
      logLevel := ← d.logLevel }

/-- Reads a configuration from its JSON record. -/
def ofJson (text : String) : Except String Config := Json.decodeText shape.read text

end Config

end ObjectAccess
