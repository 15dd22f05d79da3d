/-!
# URL errors
-/

namespace HttpSuite

/-- Why a text is not an absolute URL. -/
inductive UrlError where
  | noScheme
  | emptyHost
  | invalidPort
  | invalidIpv4
  | invalidIpv6
  /-- The host of a scheme without special rules holds a forbidden character. -/
  | forbiddenHostChar
  /-- The host is not an internationalized domain name. -/
  | invalidDomain
  deriving DecidableEq, Repr

/-- The words of a URL error. -/
def UrlError.message : UrlError → String
  | noScheme => "relative URL without a base"
  | emptyHost => "empty host"
  | invalidPort => "invalid port number"
  | invalidIpv4 => "invalid IPv4 address"
  | invalidIpv6 => "invalid IPv6 address"
  | forbiddenHostChar => "invalid domain character"
  | invalidDomain => "invalid international domain name"

end HttpSuite
