/-!
# Schemes

A scheme is a letter followed by letters, digits and `+-.`, up to a colon; it is
kept in lower case.  Six schemes are special: their URLs always have a host and a path,
and a backslash counts as a slash.
-/

namespace ObjectAccess.Url

set_option autoImplicit false

/-- How URLs of a scheme are read. -/
inductive SchemeKind where
  /-- A network scheme, with its usual port. -/
  | network (port : Nat)
  /-- The scheme of files. -/
  | file
  /-- Any other scheme. -/
  | other
  deriving DecidableEq, Repr

/-- Whether URLs of a scheme are special. -/
def SchemeKind.isSpecial (kind : SchemeKind) : Bool := kind ≠ .other

/-- The port that is not written. -/
def SchemeKind.port? : SchemeKind → Option Nat
  | .network port => some port
  | _ => none

/-- The kind of a scheme. -/
def schemeKind (scheme : String) : SchemeKind :=
  if scheme = "http" ∨ scheme = "ws" then .network 80
  else if scheme = "https" ∨ scheme = "wss" then .network 443
  else if scheme = "ftp" then .network 21
  else if scheme = "file" then .file
  else .other

/-- A character of a scheme after its first letter. -/
def isSchemeChar (c : Char) : Bool := c.isAlphanum || c = '+' || c = '-' || c = '.'

/-- The scheme in lower case and what follows its colon. -/
def takeScheme? (text : List Char) : Option (String × List Char) :=
  match text.takeWhile isSchemeChar, text.dropWhile isSchemeChar with
  | first :: others, ':' :: rest =>
    if first.isAlpha then some (String.ofList ((first :: others).map Char.toLower), rest) else none
  | _, _ => none

end ObjectAccess.Url
