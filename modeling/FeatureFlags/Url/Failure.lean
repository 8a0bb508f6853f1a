/-!
# Why a text is no URL
-/

namespace FeatureFlags.Url

inductive Failure
  | emptyHost
  | invalidDomainName
  | invalidPort
  | invalidIpv4Address
  | invalidIpv6Address
  | invalidDomainCharacter
  | relativeWithoutBase
  | cannotBeABase
deriving DecidableEq, Repr

def Failure.message : Failure → String
  | emptyHost => "empty host"
  | invalidDomainName => "invalid international domain name"
  | invalidPort => "invalid port number"
  | invalidIpv4Address => "invalid IPv4 address"
  | invalidIpv6Address => "invalid IPv6 address"
  | invalidDomainCharacter => "invalid domain character"
  | relativeWithoutBase => "relative URL without a base"
  | cannotBeABase => "relative URL with a cannot-be-a-base base"

end FeatureFlags.Url
