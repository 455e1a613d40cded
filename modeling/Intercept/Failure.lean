import Intercept.Url.Fault
import Intercept.Violation

/-!
What can go wrong for a client, with the one wording of each case. Only a broken transport, a
broken protocol and a status of the service leave a channel unusable.
-/

namespace Intercept

/-- Which part of a client's request makes no sense. -/
inductive Misuse where
  | successAsFailure
  | noDirection
  | network (given : String)
  | badBase (base : String) (fault : Url.Fault)
  | scheme (given : String)
  | noConversion (base scheme : String)
  | noBase
  | requestTimeout
  | pruneInterval
  | stated (text : String)

def Misuse.message : Misuse → String
  | .successAsFailure => "failure message cannot carry status 200"
  | .noDirection => "to_client and/or to_server must be set"
  | .network given => s!"network must be 'tcp' or 'udp', got '{given}'"
  | .badBase base fault => s!"invalid base URL '{base}': {fault.message}"
  | .scheme given => s!"unsupported URL scheme '{given}'"
  | .noConversion base target => s!"cannot convert '{base}' to a {target} URL"
  | .noBase => "base URL is required"
  | .requestTimeout => "request timeout must be greater than 0"
  | .pruneInterval => "prune interval must be greater than 0"
  | .stated text => text

/-- What a channel may be opened for. -/
inductive Capability where
  | filter
  | inject
  | close
deriving DecidableEq, Repr

def Capability.name : Capability → String
  | .filter => "filter"
  | .inject => "inject"
  | .close => "close"

inductive Failure where
  | connect (text : String)
  | transport (text : String)
  | protocol (violation : Violation)
  | remote (status : Int64) (payload : String)
  | auth (text : String)
  | permission (text : String)
  | argument (misuse : Misuse)
  | missingCapability (capability : Capability)
  | channelClosed
  | http (text : String)
  | json (flaw : Json.Flaw)

namespace Failure

def message : Failure → String
  | .connect text => s!"Connect error: {text}"
  | .transport text => s!"Transport error: {text}"
  | .protocol violation => s!"Protocol error: {violation.message}"
  | .remote status payload => s!"Remote error {status}: {payload}"
  | .auth text => s!"Authentication error: {text}"
  | .permission text => s!"Permission error: {text}"
  | .argument misuse => s!"Argument error: {misuse.message}"
  | .missingCapability capability => s!"Channel lacks the '{capability.name}' capability"
  | .channelClosed => "Channel is closed"
  | .http text => s!"HTTP error: {text}"
  | .json flaw => s!"JSON error: {flaw.message}"

def isFatal : Failure → Bool
  | .transport _ | .protocol _ | .remote .. => true
  | _ => false

end Failure

end Intercept
