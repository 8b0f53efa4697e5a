/-!
Why a text is no address.
-/

namespace RegistrySync.Url

inductive Fault where
  | emptyHost
  /-- A host name with characters that no name has. -/
  | badName
  | badPort
  | badIpv4
  | badIpv6
  /-- The same, in an address whose scheme gives its host no meaning. -/
  | badCharacter
  | noScheme
  deriving DecidableEq, Repr

def Fault.message : Fault → String
  | .emptyHost => "empty host"
  | .badName => "invalid international domain name"
  | .badPort => "invalid port number"
  | .badIpv4 => "invalid IPv4 address"
  | .badIpv6 => "invalid IPv6 address"
  | .badCharacter => "invalid domain character"
  | .noScheme => "relative URL without a base"

end RegistrySync.Url
