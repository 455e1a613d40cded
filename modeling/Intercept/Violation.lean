import Intercept.Json.Flaw

/-!
How received data can break the protocol.
-/

namespace Intercept

inductive Violation where
  | command (flaw : Json.Flaw)
  | frame (flaw : Json.Flaw)
  | body (flaw : Json.Flaw)
  | packet (flaw : Json.Flaw)
  | sentinel
  | unknownKind (code : Int64)
  | binary
  | reply (flaw : Json.Flaw)
  | content (flaw : Json.Flaw)
  | stated (text : String)

def Violation.message : Violation → String
  | .command flaw => s!"malformed control message: {flaw.message}"
  | .frame flaw => s!"malformed JSON: {flaw.message}"
  | .body flaw => s!"malformed message body: {flaw.message}"
  | .packet flaw => s!"malformed packet: {flaw.message}"
  | .sentinel => "received error sentinel message type -1"
  | .unknownKind code => s!"unknown message type {code}"
  | .binary => "binary frames are not part of the protocol"
  | .reply flaw => s!"malformed response envelope: {flaw.message}"
  | .content flaw => s!"unexpected response data: {flaw.message}"
  | .stated text => text

end Intercept
