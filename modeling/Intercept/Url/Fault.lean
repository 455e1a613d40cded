/-!
Why a text is no address.
-/

namespace Intercept.Url

inductive Fault where
  | noScheme
  | emptyHost
  | domain
  | domainCharacter
  | port
  | ipv4
  | ipv6
deriving DecidableEq, Repr

def Fault.message : Fault → String
  | .noScheme => "relative URL without a base"
  | .emptyHost => "empty host"
  | .domain => "invalid international domain name"
  | .domainCharacter => "invalid domain character"
  | .port => "invalid port number"
  | .ipv4 => "invalid IPv4 address"
  | .ipv6 => "invalid IPv6 address"

end Intercept.Url
