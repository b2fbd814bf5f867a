import ObjectAccess.Text.Decimal
import ObjectAccess.Text.Pieces

/-!
# Arguments

The command line has two commands.  `compile` makes the policy of a bucket, and
`url` the URL of an object.  A setting is given as `--name value`, `--name=value`,
`-n value`, `-nvalue` or `-n=value`; a value that is an argument of its own does not
start with a hyphen unless it is a lone one.  Arguments are read from left to right,
and the first one that cannot be used, or asks for help, decides what happens.
-/

namespace ObjectAccess.CommandLine

set_option autoImplicit false

open ObjectAccess.Text

/-! ## What is asked for -/

/-- Make the policy of a bucket. -/
structure CompileCommand where
  bucket : String
  /-- The file with the specification; the standard input if there is none. -/
  file : Option String
  /-- Whether the policy is written on lines. -/
  pretty : Bool
  deriving DecidableEq, Repr

/-- Make the URL of an object. -/
structure UrlCommand where
  bucket : String
  key : String
  /-- The public paths of the bucket. -/
  patterns : List String
  /-- The seconds for which a signed URL is valid. -/
  expiresIn : Option Nat
  deriving DecidableEq, Repr

/-- What help is about. -/
inductive Topic where
  | everything
  | compile
  | url
  /-- Help itself. -/
  | help
  deriving DecidableEq, Repr

/-- What the arguments ask for. -/
inductive Request where
  | compile (command : CompileCommand)
  | url (command : UrlCommand)
  | help (topic : Topic)
  | version
  deriving DecidableEq, Repr

/-! ## Settings -/

/-- A setting of a command. -/
inductive Setting where
  | bucket
  | file
  | key
  | isPublic
  | expiresIn
  | pretty
  | help
  deriving DecidableEq, Repr

namespace Setting

/-- The name after two hyphens. -/
def name : Setting → String
  | .bucket => "bucket"
  | .file => "file"
  | .key => "key"
  | .isPublic => "public"
  | .expiresIn => "expires-in"
  | .pretty => "pretty"
  | .help => "help"

/-- The letter after one hyphen. -/
def letter? : Setting → Option Char
  | .bucket => some 'b'
  | .file => some 'f'
  | .key => some 'k'
  | .help => some 'h'
  | .isPublic | .expiresIn | .pretty => none

/-- Whether a setting has a value. -/
def hasValue : Setting → Bool
  | .pretty | .help => false
  | _ => true

end Setting

/-- The settings of `compile`. -/
def compileSettings : List Setting := [.bucket, .file, .pretty, .help]

/-- The settings of `url`. -/
def urlSettings : List Setting := [.bucket, .key, .isPublic, .expiresIn, .help]

/-- The setting that an argument names, and the value attached to it. -/
def named? (known : List Setting) (argument : List Char) : Option (Setting × Option String) :=
  match argument with
  | '-' :: '-' :: long =>
    let (name, value) := match cut? '=' long with
      | some (name, value) => (name, some (String.ofList value))
      | none => (long, none)
    match known.find? fun s => s.name.toList = name with
    | some s => if value.isSome && !s.hasValue then none else some (s, value)
    | none => none
  | '-' :: letter :: attached =>
    (known.find? fun s => s.letter? = some letter).map fun s =>
      match attached with
      | [] => (s, none)
      | '=' :: value => (s, some (String.ofList value))
      | value => (s, some (String.ofList value))
  | _ => none

/-- Whether an argument can be the value of the setting before it. -/
def isValue (argument : String) : Bool :=
  argument = "-" || argument.toList.head? ≠ some '-'

/-- The settings read so far. -/
structure Settings where
  bucket : Option String := none
  file : Option String := none
  key : Option String := none
  patterns : List String := []
  expiresIn : Option Nat := none
  pretty : Bool := false

/-- The settings with one more; only public paths may be given more than once. -/
def Settings.set? (s : Settings) (setting : Setting) (value : String) : Option Settings :=
  match setting with
  | .bucket => if s.bucket.isSome then none else some { s with bucket := some value }
  | .file => if s.file.isSome || value = "" then none else some { s with file := some value }
  | .key => if s.key.isSome then none else some { s with key := some value }
  | .isPublic => some { s with patterns := s.patterns ++ [value] }
  | .expiresIn =>
    if s.expiresIn.isSome then none
    else (Decimal.readWord? value.toList).map fun n => { s with expiresIn := some n }
  | .pretty => if s.pretty then none else some { s with pretty := true }
  | .help => some s

/-- What reading the settings of a command comes to. -/
inductive Reading where
  | given (s : Settings)
  | helpWanted

/-- Reads the settings of a command. -/
def readSettings (known : List Setting) (s : Settings) : List String → Option Reading
  | [] => some (.given s)
  | argument :: rest =>
    if argument = "--" then if rest.isEmpty then some (.given s) else none
    else
      match named? known argument.toList with
      | none => none
      | some (.help, _) => some .helpWanted
      | some (setting, some value) =>
        match s.set? setting value with
        | some s => readSettings known s rest
        | none => none
      | some (setting, none) =>
        if setting.hasValue then
          match rest with
          | [] => none
          | value :: rest =>
            if isValue value then
              match s.set? setting value with
              | some s => readSettings known s rest
              | none => none
            else none
        else
          match s.set? setting "" with
          | some s => readSettings known s rest
          | none => none

/-! ## Commands -/

/-- The variable that holds the bucket of a command that names none. -/
def bucketVariable : String := "S3_BUCKET"

/-- The request of `compile` with the settings given. -/
def compileRequest? (lookup : String → Option String) (s : Settings) : Option Request := do
  let bucket ← s.bucket <|> lookup bucketVariable
  return .compile ⟨bucket, s.file, s.pretty⟩

/-- The request of `url` with the settings given. -/
def urlRequest? (lookup : String → Option String) (s : Settings) : Option Request := do
  let bucket ← s.bucket <|> lookup bucketVariable
  let key ← s.key
  return .url ⟨bucket, key, s.patterns, s.expiresIn⟩

/-- The request of a command with its arguments. -/
def commandRequest? (topic : Topic) (known : List Setting)
    (request? : Settings → Option Request) (arguments : List String) : Option Request :=
  match readSettings known {} arguments with
  | none => none
  | some .helpWanted => some (.help topic)
  | some (.given s) => request? s

/-- What the arguments ask for; `none` if they cannot be used. -/
def Request.ofArguments? (lookup : String → Option String) : List String → Option Request
  | [] => none
  | "compile" :: rest =>
    commandRequest? .compile compileSettings (compileRequest? lookup) rest
  | "url" :: rest => commandRequest? .url urlSettings (urlRequest? lookup) rest
  | ["help"] => some (.help .everything)
  | ["help", "compile"] => some (.help .compile)
  | ["help", "url"] => some (.help .url)
  | ["help", "help"] => some (.help .help)
  | "--help" :: _ => some (.help .everything)
  | "--version" :: _ => some .version
  | first :: _ =>
    match first.toList with
    | '-' :: 'h' :: _ => some (.help .everything)
    | '-' :: 'V' :: _ => some .version
    | _ => none

end ObjectAccess.CommandLine
