import Intercept.Url.Host
import Intercept.Url.Path

/-!
Addresses of services. An address is read completely whatever its scheme is, but only those of the
four web schemes are kept in parts; of any other only the scheme is known. The path of a web
address is kept as it is written, from its first slash on.
-/

namespace Intercept

inductive Scheme where
  | http
  | https
  | ws
  | wss
deriving DecidableEq, Repr

namespace Scheme

def text : Scheme → String
  | .http => "http"
  | .https => "https"
  | .ws => "ws"
  | .wss => "wss"

def ofText? (s : String) : Option Scheme := [http, https, ws, wss].find? (·.text == s)

def isSecure : Scheme → Bool
  | .https | .wss => true
  | .http | .ws => false

def defaultPort (s : Scheme) : Nat := if s.isSecure then 443 else 80

end Scheme

structure Url where
  scheme : Scheme
  user : List Char
  password : Option (List Char)
  host : Url.Host
  /-- None if it is the one that the scheme implies. -/
  port : Option Nat
  path : List Char
  query : Option (List Char)
  fragment : Option (List Char)
deriving DecidableEq, Repr

namespace Url

/-- What an address is a kind of, as far as reading it goes. -/
inductive Family where
  | web (scheme : Scheme)
  | ftp
  | file
  | other

namespace Family

def ofScheme (scheme : String) : Family :=
  match Scheme.ofText? scheme with
  | some s => .web s
  | none => if scheme = "ftp" then .ftp else if scheme = "file" then .file else .other

/-- Whether a backslash counts as a slash. -/
def turnsSlashes : Family → Bool
  | .other => false
  | _ => true

def defaultPort : Family → Option Nat
  | .web s => some s.defaultPort
  | .ftp => some 21
  | _ => none

end Family

def isSlash (family : Family) (c : Char) : Bool := c == '/' || (family.turnsSlashes && c == '\\')

/-- Where the part of an address ends that names the host. -/
def endsAuthority (family : Family) (c : Char) : Bool := isSlash family c || c == '?' || c == '#'

def isLetter (c : Char) : Bool := c.isAlpha

def isSchemeChar (c : Char) : Bool := c.isAlphanum || c == '+' || c == '-' || c == '.'

/-- The scheme in small letters, and what follows its colon. -/
def scheme? (cs : List Char) : Option (String × List Char) :=
  let name := cs.takeWhile isSchemeChar
  match name, cs.dropWhile isSchemeChar with
  | c :: _, ':' :: rest =>
    if isLetter c then some (String.ofList (name.map Char.toLower), rest) else none
  | _, _ => none

/-- Ends of the text are cleared of blanks and controls, and the text of line ends and tabs. -/
def tidy (cs : List Char) : List Char :=
  let isEdge (c : Char) := decide (c.toNat ≤ 32)
  let trimmed := ((cs.dropWhile isEdge).reverse.dropWhile isEdge).reverse
  trimmed.filter fun c => !(c == '\t' || c == '\n' || c == '\r')

structure User where
  name : List Char := []
  password : Option (List Char) := none

/-- What stands before the last `@`. -/
def User.ofText (cs : List Char) : User :=
  let name := encodePart refusedInUser (cs.takeWhile (· ≠ ':'))
  match cs.dropWhile (· ≠ ':') with
  | _ :: c :: rest => ⟨name, some (encodePart refusedInUser (c :: rest))⟩
  | _ => ⟨name, none⟩

/-- Splits at the last `@`, if there is one. -/
def splitUser (authority : List Char) : Option (List Char × List Char) :=
  let back := authority.reverse
  match back.dropWhile (· ≠ '@') with
  | [] => none
  | _ :: user => some (user.reverse, (back.takeWhile (· ≠ '@')).reverse)

def takeUser (family : Family) (cs : List Char) : Except Fault (User × List Char) :=
  let authority := cs.takeWhile fun c => !endsAuthority family c
  let after := cs.drop authority.length
  match splitUser authority with
  | none => .ok ({}, cs)
  | some ([], rest) =>
    if rest.isEmpty && !after.isEmpty then .error .emptyHost else .ok ({}, rest ++ after)
  | some (name, rest) => .ok (User.ofText name, rest ++ after)

/-- The characters of a host; colons inside brackets belong to it. -/
def hostChars (family : Family) (inside : Bool) : List Char → List Char
  | [] => []
  | c :: cs =>
    if (c == ':' && !inside) || endsAuthority family c then []
    else c :: hostChars family (if c = '[' then true else if c = ']' then false else inside) cs

def readHost (family : Family) (cs : List Char) : Except Fault (Option Host) :=
  match family with
  | .other => do
    Host.checkOpaque cs
    .ok none
  | _ => if cs.isEmpty then .error .emptyHost else do .ok (some (← Host.ofText cs))

/-- A port, behind its colon. -/
def takePort (family : Family) (cs : List Char) : Except Fault (Option Nat × List Char) :=
  let ds := cs.takeWhile Char.isDigit
  let rest := cs.drop ds.length
  let n := Nat.ofDigitChars 10 ds 0
  if 65535 < n then .error .port
  else if (rest.head?.map fun c => !"/\\?#".toList.contains c).getD false then .error .port
  else .ok (if ds.isEmpty || family.defaultPort == some n then none else some n, rest)

/-- What stands behind the question mark and behind the hash. -/
def queryAndFragment (cs : List Char) : Option (List Char) × Option (List Char) :=
  let fragment := match cs.dropWhile (· ≠ '#') with
    | [] => none
    | _ :: f => some (encodePart refusedInFragment f)
  let query := match cs.takeWhile (· ≠ '#') with
    | [] => none
    | _ :: q => some (encodePart refusedInQuery q)
  (query, fragment)

def endsPath (c : Char) : Bool := c == '?' || c == '#'

end Url

/-- An address: of a web service in parts, or of anything else. -/
inductive Address where
  | web (url : Url)
  | other (scheme : String)

namespace Url

/-- An address with an authority, behind the slashes. -/
def ofAuthority (scheme : String) (family : Family) (cs : List Char) : Except Fault Address := do
  let (user, cs) ← Url.takeUser family cs
  let name := hostChars family false cs
  let host ← Url.readHost family name
  let cs := cs.drop name.length
  let (port, cs) ← match cs with
    | ':' :: rest => if name.isEmpty then .error .emptyHost else Url.takePort family rest
    | rest => .ok (none, rest)
  if name.isEmpty && !(user.name.isEmpty && user.password.isNone) then .error .emptyHost
  match family, host with
  | .web s, some host =>
    let path := pathOfText (cs.takeWhile fun c => !endsPath c)
    let (query, fragment) := queryAndFragment (cs.dropWhile fun c => !endsPath c)
    .ok (.web ⟨s, user.name, user.password, host, port, path, query, fragment⟩)
  | _, _ => .ok (.other scheme)

/-- A file has a host only between two slashes and the next one; a drive is no host. -/
def checkFile : List Char → Except Fault Unit
  | c :: d :: rest =>
    if isSlash .file c && isSlash .file d then
      let name := rest.takeWhile fun c => !endsAuthority .file c
      if name.isEmpty || isDrive name then .ok ()
      else (Host.ofText name).map fun _ => ()
    else .ok ()
  | _ => .ok ()

end Url

def Address.ofText (s : String) : Except Url.Fault Address :=
  match Url.scheme? (Url.tidy s.toList) with
  | none => .error .noScheme
  | some (scheme, cs) =>
    match Url.Family.ofScheme scheme with
    | .file => do
      Url.checkFile cs
      .ok (.other scheme)
    | .other =>
      match cs with
      | '/' :: '/' :: rest => Url.ofAuthority scheme .other rest
      | _ => .ok (.other scheme)
    | family => Url.ofAuthority scheme family (cs.dropWhile (Url.isSlash family))

namespace Url

/-- The same address under another scheme; the port goes if the new scheme implies it. An address
without a host keeps its scheme. -/
def setScheme? (u : Url) (s : Scheme) : Option Url :=
  if u.host = .domain [] then none
  else some { u with scheme := s, port := u.port.filter (· ≠ s.defaultPort) }

def withPath (u : Url) (path : List Char) : Url := { u with path := pathOfText path }

def withQuery (u : Url) (query : List Char) : Url :=
  { u with query := some (encodePart refusedInQuery query) }

/-- The port that a connection goes to. -/
def effectivePort (u : Url) : Nat := u.port.getD u.scheme.defaultPort

/-- What a request names: path and query. -/
def target (u : Url) : String :=
  String.ofList (u.path ++ (match u.query with | none => [] | some q => '?' :: q))

def chars (u : Url) : List Char :=
  let password := match u.password with
    | none => []
    | some p => ':' :: p
  let user := u.user ++ password
  u.scheme.text.toList ++ "://".toList ++ (if user.isEmpty then [] else user ++ ['@']) ++
    u.host.chars ++ (match u.port with | none => [] | some n => ':' :: Nat.toDigits 10 n) ++
    u.path ++ (match u.query with | none => [] | some q => '?' :: q) ++
    (match u.fragment with | none => [] | some f => '#' :: f)

def text (u : Url) : String := String.ofList u.chars

end Url

end Intercept
