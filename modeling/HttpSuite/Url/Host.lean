import HttpSuite.Domain
import HttpSuite.Url.Error
import HttpSuite.Url.Ipv4
import HttpSuite.Url.Ipv6

/-!
# Hosts

The host of a URL: an IPv6 address in brackets, an IPv4 address or a domain name. Schemes without
special rules take any text as a host that holds no forbidden character.
-/

namespace HttpSuite.Url

open Text

/-- The text of a host after percent decoding, if its bytes are UTF-8. -/
def decodeHost (host : List Char) : Option (List Char) :=
  let bytes := percentDecode (String.ofList host).toUTF8.data.toList
  (String.fromUTF8? ⟨bytes.toArray⟩).map String.toList

/-- Checks a host in brackets. -/
def checkBracketed (host : List Char) : Except UrlError Unit :=
  if host.getLast? = some ']' && Ipv6.isAddress (host.drop 1).dropLast then .ok ()
  else .error .invalidIpv6

/-- Checks the host of a special scheme. -/
def checkHost (host : List Char) : Except UrlError Unit :=
  if host.head? = some '[' then checkBracketed host
  else
    match (decodeHost host).bind Domain.normalize with
    | none => .error .invalidDomain
    | some [] => .error .emptyHost
    | some name =>
      if Ipv4.isMeant name && !Ipv4.isAddress name then .error .invalidIpv4 else .ok ()

/-- The characters that no host may hold. -/
def isForbidden (c : Char) : Bool := "\x00\t\n\r #/:<>?@[\\]^|".toList.contains c

/-- Checks the host of a scheme without special rules. -/
def checkOpaqueHost (host : List Char) : Except UrlError Unit :=
  if host.head? = some '[' then checkBracketed host
  else if host.any isForbidden then .error .forbiddenHostChar
  else .ok ()

end HttpSuite.Url
