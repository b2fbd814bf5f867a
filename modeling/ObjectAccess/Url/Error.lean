/-!
# Why an address is refused

The causes for which the text of an endpoint is no absolute URL.
-/

namespace ObjectAccess.Url

set_option autoImplicit false

/-- Why a text is no absolute URL. -/
inductive UrlError where
  | emptyHost
  | badDomain
  | badPort
  | badIpv4
  | badIpv6
  | badHostCharacter
  | noScheme
  deriving DecidableEq, Repr

/-- The message of an error. -/
def UrlError.message : UrlError → String
  | .emptyHost => "empty host"
  | .badDomain => "invalid international domain name"
  | .badPort => "invalid port number"
  | .badIpv4 => "invalid IPv4 address"
  | .badIpv6 => "invalid IPv6 address"
  | .badHostCharacter => "invalid domain character"
  | .noScheme => "relative URL without a base"

end ObjectAccess.Url
