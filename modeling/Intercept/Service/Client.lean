import Intercept.Capabilities
import Intercept.Command
import Intercept.Config
import Intercept.Service.Reply

/-!
Requests to the control plane. A call is what a caller wants, a request is what goes out; each
call has one, unless it makes no sense.
-/

namespace Intercept

structure Request where
  method : String
  url : Url
  body : Option String

/-- Where requests go, and the client's own key. -/
structure ServiceClient where
  base : Url
  key : String

namespace ServiceClient

def ofConfig (c : Config) : Except Failure ServiceClient := do
  .ok ⟨← Url.ofBase c.base .http .https, c.key⟩

/-- The address of an endpoint, with these names and values as its whole query. -/
def endpoint (client : ServiceClient) (name : String) (pairs : List (String × String)) : Url :=
  let u := client.base.extend ("/api/1/" ++ name)
  { u with query := some (Url.Form.join (pairs.map fun (k, v) => Url.Form.pair k v)) }

def ownKey (client : ServiceClient) : String × String := ("key", client.key)

def get (url : Url) : Request := ⟨"GET", url, none⟩

def status (client : ServiceClient) : Request := get (client.endpoint "status" [client.ownKey])

def listProxies (client : ServiceClient) : Request :=
  get (client.endpoint "proxies" [client.ownKey])

def newKey (client : ServiceClient) (permissions : Permissions) : Request :=
  get (client.endpoint "newkey" [("perms", toString permissions.bits), client.ownKey])

/-- Asks about some other key, or about the client's own one. The client's own key goes out only
in the second case. -/
def keyInfo (client : ServiceClient) : Option String → Request
  | some key => get (client.endpoint "keyinfo" [("key", key)])
  | none => get (client.endpoint "keyinfo" [client.ownKey])

def inject (client : ServiceClient) (r : InjectRequest) : Except Failure Request :=
  match Direction.ofFlags? r.toClient r.toServer with
  | none => .error (.argument .noDirection)
  | some _ =>
    .ok ⟨"POST", client.endpoint "inject" [client.ownKey], some (InjectRequest.record.encode r)⟩

end ServiceClient

/-- What came of a request: an answer, or none. -/
inductive Response where
  | answer (status : Nat) (body : List UInt8)
  | broken (text : String)

/-- Reads an answer's bytes as text as far as they are text. -/
def Response.interpret {α : Type} (read : Json.Value → Except Json.Flaw α) :
    Response → Except Failure α
  | .answer status body => Reply.interpret read status (String.ofList (Text.ofUtf8 body))
  | .broken text => .error (.http text)

end Intercept
