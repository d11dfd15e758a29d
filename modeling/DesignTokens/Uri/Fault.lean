/-!
# DesignTokens.Uri.Fault — why a text is no URI
-/

namespace DesignTokens.Uri

/-- Why a text is no URI, or no reference for a given base. -/
inductive Fault where
  | relativeWithoutBase
  | rootlessBase
  | emptyHost
  | invalidDomain
  | invalidDomainCharacter
  | invalidIpv4Address
  | invalidIpv6Address
  | invalidPort
deriving Repr, DecidableEq, Inhabited

def Fault.message : Fault → String
  | .relativeWithoutBase => "relative URL without a base"
  | .rootlessBase => "relative URL with a cannot-be-a-base base"
  | .emptyHost => "empty host"
  | .invalidDomain => "invalid international domain name"
  | .invalidDomainCharacter => "invalid domain character"
  | .invalidIpv4Address => "invalid IPv4 address"
  | .invalidIpv6Address => "invalid IPv6 address"
  | .invalidPort => "invalid port number"

end DesignTokens.Uri
