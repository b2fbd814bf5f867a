import ObjectAccess.Idna.Domain
import ObjectAccess.Percent
import ObjectAccess.Url.Error
import ObjectAccess.Url.Ipv4
import ObjectAccess.Url.Ipv6

/-!
# Hosts

The host of a special URL is a domain in its ASCII form or an address; that of any
other URL is kept as it is, with control and non-ASCII characters escaped.
-/

namespace ObjectAccess.Url

set_option autoImplicit false

open ObjectAccess.Text

/-- The host of a URL. -/
inductive Host where
  /-- A domain, or the host of a URL that is not special. -/
  | name (text : List Char)
  | ipv4 (address : Nat)
  | ipv6 (groups : List Nat)
  deriving DecidableEq, Repr

/-- The text of a host. -/
def Host.text : Host → List Char
  | .name text => text
  | .ipv4 address => ipv4Text address
  | .ipv6 groups => '[' :: (ipv6Text groups ++ [']'])

/-- The address between brackets, after the opening one. -/
def readBracketed (text : List Char) : Except UrlError Host :=
  if text.getLast? = some ']' then
    match readIpv6? text.dropLast with
    | some groups => .ok (.ipv6 groups)
    | none => .error .badIpv6
  else .error .badIpv6

/-- Reads the host of a special URL. -/
def readSpecialHost (text : List Char) : Except UrlError Host :=
  match text with
  | '[' :: rest => readBracketed rest
  | _ =>
    match Idna.toAscii? (Percent.decodeOctets (octets text)) with
    | none => .error .badDomain
    | some domain =>
      if domain = [] then .error .emptyHost
      else if endsInNumber domain then
        match readIpv4? domain with
        | some address => .ok (.ipv4 address)
        | none => .error .badIpv4
      else .ok (.name domain)

/-- The characters that no host may contain. -/
def isForbiddenInHost (c : Char) : Bool :=
  "\x00\t\n\r #/:<>?@[\\]^|".toList.contains c

/-- Whether a character is written as it is in a host that is not special. -/
def keptInHost (c : Char) : Bool := ' ' ≤ c && c < '\x7F'

/-- Reads the host of a URL that is not special. -/
def readOtherHost (text : List Char) : Except UrlError Host :=
  match text with
  | '[' :: rest => readBracketed rest
  | _ =>
    if text.any isForbiddenInHost then .error .badHostCharacter
    else .ok (.name (Percent.encodeWith keptInHost text))

end ObjectAccess.Url
