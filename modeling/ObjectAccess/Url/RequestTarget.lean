import ObjectAccess.Text.Pieces
import ObjectAccess.Text.Utf8

/-!
# Request targets

A signed URL comes back as the target of a request: an absolute URL, or only its
path and query.  A target is taken apart and nothing in it is changed, so what was
signed can be rebuilt from it; every octet has to be one that may stand where it
stands, and a fragment is passed over.
-/

namespace ObjectAccess.Url

set_option autoImplicit false

open ObjectAccess.Text

/-- Why a text is no request target. -/
inductive TargetError where
  | badCharacter
  | badAuthority
  | badFormat
  | empty
  | tooLong
  | schemeTooLong
  deriving DecidableEq, Repr

/-- The message of an error. -/
def TargetError.message : TargetError → String
  | .badCharacter => "invalid uri character"
  | .badAuthority => "invalid authority"
  | .badFormat => "invalid format"
  | .empty => "empty string"
  | .tooLong => "uri too long"
  | .schemeTooLong => "scheme too long"

/-- The parts of a target. -/
structure RequestTarget where
  authority : Option String
  /-- The path as it was written, `/` for an empty path after an authority. -/
  path : String
  query : Option String
  deriving DecidableEq, Repr

namespace RequestTarget

/-! ## Authorities -/

/-- Whether a character may stand in an authority. -/
def isAuthorityChar (c : Char) : Bool :=
  c.isAlphanum || "!$&'()*+,-.:;=@[]_~".toList.contains c

/-- What has been seen of an authority. -/
structure AuthorityScan where
  colons : Nat := 0
  opened : Bool := false
  closed : Bool := false
  hasPercent : Bool := false
  endsWithAt : Bool := false

/-- One more character of an authority. -/
def AuthorityScan.step (s : AuthorityScan) (c : Char) : Except TargetError AuthorityScan :=
  let s := { s with endsWithAt := false }
  if c = '%' then .ok { s with hasPercent := true }
  else if isAuthorityChar c = false then .error .badCharacter
  else if c = ':' then
    if s.colons ≥ 8 then .error .badAuthority else .ok { s with colons := s.colons + 1 }
  else if c = '[' then
    if s.hasPercent || s.opened then .error .badAuthority else .ok { s with opened := true }
  else if c = ']' then
    if s.closed || !s.opened then .error .badAuthority
    else .ok { s with closed := true, colons := 0, hasPercent := false }
  else if c = '@' then .ok { s with colons := 0, hasPercent := false, endsWithAt := true }
  else .ok s

/-- Whether a character ends an authority. -/
def endsAuthority (c : Char) : Bool := c = '/' || c = '?' || c = '#'

/-- The authority at the start of a text, and what follows it. -/
def takeAuthority (text : List Char) : Except TargetError (List Char × List Char) := do
  let authority := text.takeWhile fun c => !endsAuthority c
  let scan ← authority.foldlM AuthorityScan.step {}
  if scan.opened ≠ scan.closed ∨ scan.colons > 1 ∨ scan.endsWithAt ∨ scan.hasPercent then
    .error .badAuthority
  else .ok (authority, text.dropWhile fun c => !endsAuthority c)

/-! ## Paths and queries -/

/-- Whether a character may stand in a path. -/
def isPathChar (c : Char) : Bool :=
  c = '!' || c = '"' || ('$' ≤ c && c ≤ ';') || c = '=' || ('@' ≤ c && c ≤ '_') ||
    ('a' ≤ c && c ≤ '~') || '\x7F' < c

/-- Whether a character may stand in a query. -/
def isQueryChar (c : Char) : Bool :=
  c = '!' || ('$' ≤ c && c ≤ ';') || c = '=' || ('?' ≤ c && c ≤ '~') || '\x7F' < c

/-- The path and the query of a text. -/
def takePath (text : List Char) : Except TargetError (List Char × Option (List Char)) :=
  let text := text.takeWhile (· ≠ '#')
  let path := text.takeWhile (· ≠ '?')
  if path.all isPathChar = false then .error .badCharacter
  else
    match text.dropWhile (· ≠ '?') with
    | [] => .ok (path, none)
    | _ :: query => if query.all isQueryChar then .ok (path, some query) else .error .badCharacter

/-- The target of a path and a query. -/
def ofPath (authority : Option (List Char)) (text : List Char) :
    Except TargetError RequestTarget := do
  let (path, query) ← takePath text
  .ok ⟨authority.map String.ofList, if path = [] then "/" else String.ofList path,
    query.map String.ofList⟩

/-! ## Schemes -/

/-- Whether a character may stand in a scheme. -/
def isSchemeChar (c : Char) : Bool :=
  c.isAlphanum || c = '+' || c = '-' || c = '.' || c = '~'

/-- The length of the scheme that a text starts with, if the scheme is followed by `://`.  The two
usual ones are recognised in any case. -/
def schemeLength? (text : List Char) : Except TargetError (Option Nat) :=
  let lowered := (text.take 8).map Char.toLower
  if "http://".toList.isPrefixOf lowered then .ok (some 4)
  else if "https://".toList.isPrefixOf lowered then .ok (some 5)
  else if (octets text).length ≤ 3 then .ok none
  else
    let scheme := text.takeWhile isSchemeChar
    if "://".toList.isPrefixOf (text.drop scheme.length) then
      if scheme.length > 64 then .error .schemeTooLong else .ok (some scheme.length)
    else .ok none

/-! ## Targets -/

/-- The target that consists of nothing but an authority. -/
def authorityOnly (text : List Char) (otherwise : TargetError) :
    Except TargetError RequestTarget := do
  let (authority, rest) ← takeAuthority text
  if rest = [] then .ok ⟨some (String.ofList authority), "", none⟩ else .error otherwise

/-- The most octets of a target. -/
def maxOctets : Nat := 65534

/-- Reads a request target. -/
def read (target : String) : Except TargetError RequestTarget := do
  let text := target.toList
  if maxOctets < target.utf8ByteSize then .error .tooLong
  else
    match text with
    | [] => .error .empty
    | ['/'] => .ok ⟨none, "/", none⟩
    | ['*'] => .ok ⟨none, "*", none⟩
    | [_] => authorityOnly text .badCharacter
    | '/' :: _ => ofPath none text
    | _ =>
      match ← schemeLength? text with
      | none => authorityOnly text .badFormat
      | some length =>
        let rest := text.drop (length + 3)
        if rest = [] then .error .empty
        else
          let (authority, rest) ← takeAuthority rest
          if authority = [] then .error .badFormat else ofPath (some authority) rest

end RequestTarget

end ObjectAccess.Url
