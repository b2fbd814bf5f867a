import ObjectAccess.Percent
import ObjectAccess.Text.Blank
import ObjectAccess.Text.Casing

/-!
# Canonical requests

A signature is made over one text that stands for the request.  The signer and the
verifier build that text from what they have, so differences that do not matter
have to vanish: the path is decoded and encoded again, the query is sorted, and the
signed headers are in lower case, in order, with their white space collapsed.
-/

namespace ObjectAccess.Signing

set_option autoImplicit false

open ObjectAccess.Text

/-- A header: its name and its value. -/
abbrev Header := List Char × List Char

/-- What a signature covers. -/
structure Request where
  method : List Char
  /-- The path, with or without escapes. -/
  path : List Char
  query : List Char
  headers : List Header
  /-- The names of the headers that are signed. -/
  signed : List (List Char)
  payloadHash : List Char

/-! ## Path -/

/-- The path with every segment decoded and encoded again. -/
def canonicalPath (path : List Char) : List Char :=
  if path = [] ∨ path = ['/'] then ['/']
  else join '/' ((pieces '/' path).map fun segment => Percent.encode (Percent.decode segment))

/-! ## Query -/

/-- A parameter: its name and its value, as they are written. -/
abbrev Parameter := List Char × List Char

/-- A piece of a query as a parameter; a name alone has an empty value. -/
def Parameter.ofPiece (piece : List Char) : Parameter := (cut? '=' piece).getD (piece, [])

/-- The order of parameters: by name, then by value. -/
def Parameter.le (p q : Parameter) : Bool :=
  decide (p.1 < q.1) || (decide (p.1 = q.1) && !decide (q.2 < p.2))

/-- A parameter as it is signed. -/
def Parameter.text (p : Parameter) : List Char := p.1 ++ '=' :: p.2

/-- The parameters of a query in order, without empty pieces. -/
def sortedParameters (query : List Char) : List Parameter :=
  (((pieces '&' query).filter (· ≠ [])).map Parameter.ofPiece).mergeSort Parameter.le

/-- The query as it is signed. -/
def canonicalQuery (query : List Char) : List Char :=
  join '&' ((sortedParameters query).map Parameter.text)

/-! ## Headers -/

/-- The values of the headers whose name has the given lower-case form, with commas between
them. -/
def headerValue? (headers : List Header) (name : List Char) : Option (List Char) :=
  match (headers.filter fun h => lower h.1 = name).map fun h => collapse h.2 with
  | [] => none
  | values => some (join ',' values)

/-- Names in ascending order. -/
def sortNames (names : List (List Char)) : List (List Char) :=
  names.mergeSort fun a b => !decide (b < a)

/-- A line for each signed header that the request has. -/
def canonicalHeaders (headers : List Header) (signed : List (List Char)) : List Char :=
  join '\n' ((sortNames signed).filterMap fun name =>
    (headerValue? headers name).map fun value => name ++ ':' :: value)

/-- The names of the signed headers. -/
def signedHeaderNames (signed : List (List Char)) : List Char := join ';' (sortNames signed)

/-! ## Request -/

/-- The text that stands for a request. -/
def Request.canonical (r : Request) : List Char :=
  r.method ++ '\n' :: (canonicalPath r.path ++ '\n' :: (canonicalQuery r.query ++ '\n' ::
    (canonicalHeaders r.headers r.signed ++ '\n' :: '\n' :: (signedHeaderNames r.signed ++ '\n' ::
      r.payloadHash))))

end ObjectAccess.Signing
