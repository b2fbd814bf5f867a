import ObjectAccess.Idna.Direction
import ObjectAccess.Idna.Joining
import ObjectAccess.Idna.Mapping
import ObjectAccess.Idna.Punycode
import ObjectAccess.Text.Utf8

/-!
# Domains

A domain is given by the octets of its text.  Its characters are mapped, and it is cut
into labels at its dots.  A label that starts with `xn--` is the ASCII form of another
text, which has to be one that mapping leaves alone; any other label with
characters beyond ASCII gets such a form.  No label may start with a mark, joiners may
stand only where they matter, and directions have to agree.  Labels may be empty, of
any length, and have hyphens anywhere.
-/

namespace ObjectAccess.Idna

set_option autoImplicit false

open ObjectAccess.Text

/-- The ASCII characters that no domain may hold. -/
def isDenied (c : Char) : Bool :=
  c ≤ ' ' || c = '\x7F' || "%#/:<>?@[\\]^|".toList.contains c

/-- A label: what it reads as, and how it is written in ASCII. -/
structure Label where
  text : List Char
  ascii : List Char

/-- What an ASCII form starts with. -/
def codedStart : List Char := "xn--".toList

/-- The most characters of a label that gets an ASCII form. -/
def maxEncoded : Nat := 1000

/-- The most characters of an ASCII form that is read. -/
def maxDecoded : Nat := 2000

/-- Whether a text may be what an ASCII form stands for. -/
def isCodedText (text : List Char) : Bool :=
  !text.all Punycode.isAscii && mapText? text = some text && !codedStart.isPrefixOf text

/-- Reads a label whose characters are mapped. -/
def Label.read? (label : List Char) : Option Label :=
  if codedStart.isPrefixOf label then
    let coded := label.drop codedStart.length
    if coded.length ≤ maxDecoded then
      ((Punycode.decode? coded).filter isCodedText).map fun text => ⟨text, label⟩
    else none
  else if label.all Punycode.isAscii then some ⟨label, label⟩
  else if label.length ≤ maxEncoded then
    some ⟨label, codedStart ++ Punycode.encode label⟩
  else none

/-- Whether a label starts with no mark and has its joiners where they may stand. -/
def Label.isWellFormed (l : Label) : Bool := !l.text.head?.any isMark && joinersFit [] l.text

/-- The labels of a domain. -/
def labels? (octets : List UInt8) : Option (List Label) := do
  let text ← mapText? (decodeLossy octets)
  if text.any isDenied then none
  else
    let labels ← (pieces '.' text).mapM Label.read?
    if labels.all (·.isWellFormed) && directionsAgree (labels.map (·.text)) then some labels
    else none

/-- The ASCII form of a domain. -/
def toAscii? (octets : List UInt8) : Option (List Char) :=
  (labels? octets).map fun labels => join '.' (labels.map (·.ascii))

end ObjectAccess.Idna
