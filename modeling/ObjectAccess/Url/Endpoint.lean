import ObjectAccess.Text.Decimal
import ObjectAccess.Url.FilePath
import ObjectAccess.Url.Host
import ObjectAccess.Url.Scheme

/-!
# Endpoints

An endpoint is an absolute URL of which scheme, host, port and path matter; user
names, queries and fragments are passed over.  Control characters and spaces at
its ends do not count, and neither do tabs and line breaks anywhere.
-/

namespace ObjectAccess.Url

set_option autoImplicit false

open ObjectAccess.Text

/-- The parts of an absolute URL. -/
structure Endpoint where
  scheme : String
  host : Option Host
  /-- The port, unless it is the usual one of the scheme. -/
  port : Option Nat
  path : List Char
  deriving DecidableEq, Repr

namespace Endpoint

/-- Whether a character ends an authority. -/
def endsAuthority (kind : SchemeKind) (c : Char) : Bool :=
  c = '/' || c = '?' || c = '#' || (kind.isSpecial && c = '\\')

/-- The text of the path: what comes before a query or a fragment. -/
def beforeQuery (text : List Char) : List Char := text.takeWhile fun c => c ≠ '?' && c ≠ '#'

/-- A text in which a backslash is a slash if the scheme is special. -/
def unifySlashes (kind : SchemeKind) (text : List Char) : List Char :=
  if kind.isSpecial then text.map fun c => if c = '\\' then '/' else c else text

/-- The path after an authority. -/
def pathAfterAuthority (kind : SchemeKind) (text : List Char) : List Char :=
  match unifySlashes kind (beforeQuery text) with
  | '/' :: rest => pathText (pieces '/' rest)
  | [] => if kind.isSpecial then ['/'] else []
  | rest => pathText (pieces '/' rest)

/-- The host part of an authority without its user: up to a colon outside brackets. -/
def splitHost : Bool → List Char → List Char × List Char
  | _, [] => ([], [])
  | inBrackets, c :: rest =>
    if c = ':' && !inBrackets then ([], c :: rest)
    else
      let inside := if c = '[' then true else if c = ']' then false else inBrackets
      let (host, after) := splitHost inside rest
      (c :: host, after)

/-- Reads the digits of a port up to the largest one. -/
def readPortDigits : Nat → List Char → Except UrlError Nat
  | n, [] => .ok n
  | n, c :: rest =>
    if c.isDigit ∧ n * 10 + Decimal.digitValue c ≤ 65535 then
      readPortDigits (n * 10 + Decimal.digitValue c) rest
    else .error .badPort

/-- The port after the colon, unless it is empty or the usual one. -/
def readPort (kind : SchemeKind) (text : List Char) : Except UrlError (Option Nat) :=
  if text = [] then .ok none
  else (readPortDigits 0 text).map fun n => if kind.port? = some n then none else some n

/-- The user part of an authority, if there is one, and what follows it. -/
def splitUser (authority : List Char) : Option (List Char) × List Char :=
  match cutLast? '@' authority with
  | some (user, rest) => (some user, rest)
  | none => (none, authority)

/-- What an authority says, and the text after a port that belongs to the path. -/
structure Authority where
  host : Option Host
  port : Option Nat
  rest : List Char

/-- The authority with a host and what follows the host.  A backslash ends a port for every
scheme. -/
def withPort (kind : SchemeKind) (host : Host) (afterHost : List Char) :
    Except UrlError Authority := do
  let text := afterHost.drop 1
  let port ← readPort kind (text.takeWhile (· ≠ '\\'))
  .ok ⟨some host, port, text.dropWhile (· ≠ '\\')⟩

/-- Reads an authority; `followed` says whether anything comes after it. -/
def readAuthority (kind : SchemeKind) (followed : Bool) (authority : List Char) :
    Except UrlError Authority := do
  let (user, rest) := splitUser authority
  let (hostText, afterHost) := splitHost false rest
  if user = some [] ∧ rest = [] ∧ followed then .error .emptyHost
  else if kind.isSpecial then
    if hostText = [] then .error .emptyHost
    else
      let host ← readSpecialHost hostText
      withPort kind host afterHost
  else
    let host ← readOtherHost hostText
    if host = .name [] then
      if afterHost ≠ [] ∨ (user ≠ none ∧ user ≠ some [] ∧ user ≠ some [':']) then .error .emptyHost
      else .ok ⟨none, none, []⟩
    else withPort kind host afterHost

/-- The endpoint whose authority starts the text. -/
def ofAuthority (scheme : String) (text : List Char) : Except UrlError Endpoint := do
  let kind := schemeKind scheme
  let rest := text.dropWhile fun c => !endsAuthority kind c
  let authority ← readAuthority kind (!rest.isEmpty) (text.takeWhile fun c => !endsAuthority kind c)
  .ok ⟨scheme, authority.host, authority.port, pathAfterAuthority kind (authority.rest ++ rest)⟩

/-- What follows a slash or a backslash, with tabs and line breaks in front of it passed over. -/
def afterSlash? (text : List Char) : Option (List Char) :=
  match text.dropWhile isBreak with
  | c :: rest => if c = '/' ∨ c = '\\' then some rest else none
  | [] => none

/-- The endpoint of a file on a host, given what follows the host. -/
def ofFileOnHost? (host : Host) (text : List Char) : Option Endpoint :=
  let path := unifySlashes .file (beforeQuery text)
  (filePath? ((afterSlash? path).getD path)).map (⟨"file", some host, none, ·⟩)

/-- The endpoint of a file URL, given what follows the colon.  It has a host only between two
slashes and the path, and only if no drive letter takes its place or starts the path. -/
def ofFile (text : List Char) : Except UrlError Endpoint := do
  let hostless : Endpoint := ⟨"file", none, none, ['/']⟩
  match (afterSlash? text).bind afterSlash? with
  | none => .ok hostless
  | some rest =>
    let hostText := withoutBreaks (rest.takeWhile fun c => !endsAuthority .file c)
    if hostText = [] ∨ isDriveLetter hostText then .ok hostless
    else
      let host ← readSpecialHost hostText
      if host = .name "localhost".toList then .ok hostless
      else
        let onHost? := ofFileOnHost? host (rest.dropWhile fun c => !endsAuthority .file c)
        .ok (onHost?.getD hostless)

/-- Reads an absolute URL. -/
def read (text : String) : Except UrlError Endpoint :=
  let trimmed := trim (· ≤ ' ') text.toList
  match takeScheme? (withoutBreaks trimmed) with
  | none => .error .noScheme
  | some (scheme, rest) =>
    match schemeKind scheme with
    | .network _ => ofAuthority scheme (rest.dropWhile fun c => c = '/' || c = '\\')
    | .file => ofFile ((trimmed.dropWhile (· ≠ ':')).drop 1)
    | .other =>
      match rest with
      | '/' :: '/' :: rest => ofAuthority scheme rest
      | _ => .ok ⟨scheme, none, none, []⟩

/-- The value of the `Host` header for requests to the endpoint. -/
def hostHeader? (e : Endpoint) : Option (List Char) :=
  e.host.map fun host =>
    match e.port with
    | some port => host.text ++ ':' :: Decimal.digits port
    | none => host.text

end Endpoint

end ObjectAccess.Url
