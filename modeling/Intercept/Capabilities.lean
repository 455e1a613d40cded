import Intercept.Failure
import Intercept.Text.Lower
import Intercept.Url.Address

/-!
What a channel is opened for, and the address of its socket. The key and the capabilities are the
whole query of that address.
-/

namespace Intercept

/-- What the service does with a packet whose verdict never comes. -/
inductive DefaultAction where
  | drop
  | allow
deriving DecidableEq, Repr

namespace DefaultAction

def name : DefaultAction → String
  | .drop => "drop"
  | .allow => "allow"

def ofText? (s : String) : Option DefaultAction :=
  let s := Text.lower s
  if s = "drop" then some .drop else if s = "allow" then some .allow else none

end DefaultAction

/-- `defaultAction` is asked for only together with `filter`; `network` restricts the packets. -/
structure Capabilities where
  filter : Bool := false
  inject : Bool := false
  close : Bool := false
  defaultAction : Option DefaultAction := none
  network : Option String := none
deriving DecidableEq, Repr

namespace Capabilities

def has (caps : Capabilities) : Capability → Bool
  | .filter => caps.filter
  | .inject => caps.inject
  | .close => caps.close

def check (caps : Capabilities) : Except Failure Unit :=
  match caps.network with
  | some n => if n = "tcp" ∨ n = "udp" then .ok () else .error (.argument (.network n))
  | none => .ok ()

/-- The parts of the query, without the key. -/
def words (caps : Capabilities) : List (List Char) :=
  let action := match caps.defaultAction with
    | some a => ["default=".toList ++ a.name.toList]
    | none => []
  (if caps.filter then "filter".toList :: action else []) ++
    (if caps.inject then ["inject".toList] else []) ++
    (if caps.close then ["close".toList] else []) ++
    (match caps.network with
      | some n => ["network=".toList ++ n.toList]
      | none => [])

def query (caps : Capabilities) (key : String) : List Char :=
  Url.Form.join (Url.Form.pair "key" key :: caps.words)

end Capabilities

namespace Url

/-- Reads a base address and moves it to one of two schemes, the second one if it is secure. -/
def ofBase (base : String) (plain secure : Scheme) : Except Failure Url :=
  match Address.ofText base with
  | .error fault => .error (.argument (.badBase base fault))
  | .ok (.other scheme) => .error (.argument (.scheme scheme))
  | .ok (.web u) =>
    let scheme := if u.scheme.isSecure then secure else plain
    if u.scheme = scheme then .ok u
    else
      match u.setScheme? scheme with
      | some moved => .ok moved
      | none => .error (.argument (.noConversion base scheme.text))

/-- The path without the slashes at its end, and some more path behind it. -/
def extend (u : Url) (more : String) : Url :=
  u.withPath ((u.path.reverse.dropWhile (· == '/')).reverse ++ more.toList)

end Url

def socketPath : String := "/api/2/socket"

def socketUri (base key : String) (caps : Capabilities) : Except Failure Url := do
  caps.check
  let u ← Url.ofBase base .ws .wss
  .ok ((u.extend socketPath).withQuery (caps.query key))

end Intercept
