import Intercept.Envelope
import Intercept.Failure
import Intercept.Service.Records
import Intercept.Text.Blank

/-!
Answers of the control plane. Outside the statuses of success the answer is not looked into;
within them it is an envelope, whose own status decides.
-/

namespace Intercept.Reply

def unauthorized : Int64 := 401
def forbidden : Int64 := 403

/-- What an envelope says, its content read by `read`. -/
def ofEnvelope {α : Type} (read : Json.Value → Except Json.Flaw α) (e : Envelope) :
    Except Failure α :=
  if e.status = Envelope.success then
    match read e.data with
    | .ok x => .ok x
    | .error flaw => .error (.protocol (.content flaw))
  else if e.status = unauthorized then .error (.auth e.data.plain)
  else if e.status = forbidden then .error (.permission e.data.plain)
  else .error (.remote e.status e.data.plain)

/-- What an answer says. -/
def interpret {α : Type} (read : Json.Value → Except Json.Flaw α) (status : Nat) (body : String) :
    Except Failure α :=
  if 200 ≤ status ∧ status < 300 then
    match Envelope.record.decode body with
    | .error flaw => .error (.protocol (.reply flaw))
    | .ok e => ofEnvelope read e
  else .error (.remote (Int64.ofNat status) (Text.trim body))

/-- A list of proxies; null stands for none. -/
def proxies : Json.Value → Except Json.Flaw (List ProxyStatus)
  | .null => .ok []
  | v => Json.listOfTree ProxyStatus.record v

end Intercept.Reply
