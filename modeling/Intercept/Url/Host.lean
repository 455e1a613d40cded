import Intercept.Url.Domain
import Intercept.Url.Fault

/-!
Hosts: a domain, four bytes, or eight groups of sixteen bits. A domain whose last label is a
number is read as four bytes; any of the parts may be octal or hexadecimal, and the last one fills
what is left.
-/

namespace Intercept.Url

inductive Host where
  | domain (name : List Char)
  | ipv4 (address : Nat)
  | ipv6 (groups : List Nat)
deriving DecidableEq, Repr

namespace Host

def ofDigits? (base : Nat) (cs : List Char) : Option Nat :=
  cs.foldlM (fun n c =>
    match Url.hexDigit? (UInt8.ofNat c.toNat) with
    | some d => if c.toNat < 128 ∧ d < base then some (n * base + d) else none
    | none => none) 0

/-- A part of an address of four bytes. -/
def part? : List Char → Option Nat
  | [] => none
  | ['0'] => some 0
  | '0' :: c :: cs => if c = 'x' ∨ c = 'X' then ofDigits? 16 cs else ofDigits? 8 (c :: cs)
  | cs => ofDigits? 10 cs

/-- Labels without the empty one that a dot at the end makes. -/
def labels (name : List Char) : List (List Char) :=
  let ls := Form.split '.' name
  if ls.getLast? = some [] then ls.dropLast else ls

def endsInNumber (name : List Char) : Bool :=
  match (labels name).getLast? with
  | none => false
  | some l => (!l.isEmpty && l.all Char.isDigit) || (part? l).isSome

def ipv4? (name : List Char) : Option Nat := do
  let ls := labels name
  let parts ← ls.mapM part?
  let last ← parts.getLast?
  let front := parts.dropLast
  if front.length ≤ 3 ∧ front.all (· ≤ 255) ∧ last < Nat.pow 256 (4 - front.length) then
    return front.foldr (fun n rest => n * 0x1000000 + rest / 0x100) 0 + last
  else none

/-- The hexadecimal digits, at most four, of one group. -/
def group (cs : List Char) : Nat × List Char :=
  let isHex (c : Char) := (ofDigits? 16 [c]).isSome
  let ds := (cs.take 4).takeWhile isHex
  ((ofDigits? 16 ds).getD 0, cs.drop ds.length)

/-- A number below 256 without a zero in front. -/
def byte? (cs : List Char) : Option (Nat × List Char) :=
  let ds := cs.takeWhile Char.isDigit
  match ofDigits? 10 ds with
  | some n =>
    if ds.isEmpty ∨ 255 < n ∨ (1 < ds.length ∧ ds.head? = some '0') then none
    else some (n, cs.drop ds.length)
  | none => none

/-- Four bytes with dots as the last two groups. -/
def dotted? (cs : List Char) : Option (List Nat) := do
  let (a, cs) ← byte? cs
  let '.' :: cs := cs | none
  let (b, cs) ← byte? cs
  let '.' :: cs := cs | none
  let (c, cs) ← byte? cs
  let '.' :: cs := cs | none
  let (d, cs) ← byte? cs
  if cs.isEmpty then some [a * 256 + b, c * 256 + d] else none

/-- Where a run of zeros was left out, one of them is kept; this fills in the others. -/
def fill (groups : List Nat) : Option Nat → Option (List Nat)
  | none => if groups.length = 8 then some groups else none
  | some gap => some (groups.take gap ++ List.replicate (8 - groups.length) 0 ++ groups.drop gap)

/-- Reads groups; `gap` is the place behind a run of zeros that was left out. -/
def groupsFrom : (fuel : Nat) → List Nat → Option Nat → List Char → Option (List Nat)
  | 0, _, _, _ => none
  | _ + 1, seen, gap, [] => fill seen gap
  | fuel + 1, seen, gap, c :: cs =>
    if seen.length = 8 then none
    else if c = ':' then
      if gap.isSome then none else groupsFrom fuel (seen ++ [0]) (some (seen.length + 1)) cs
    else
      let (n, rest) := group (c :: cs)
      match rest with
      | [] => groupsFrom fuel (seen ++ [n]) gap []
      | '.' :: _ => do
        if 6 < seen.length ∨ rest.length = cs.length + 1 then none
        else fill (seen ++ (← dotted? (c :: cs))) gap
      | ':' :: more => if more.isEmpty then none else groupsFrom fuel (seen ++ [n]) gap more
      | _ => none

def ipv6? (cs : List Char) : Option (List Nat) :=
  if cs.length < 2 then none
  else match cs with
    | ':' :: ':' :: rest => groupsFrom (rest.length + 1) [0] (some 1) rest
    | ':' :: _ => none
    | _ => groupsFrom (cs.length + 1) [] none cs

def ofBracketed (cs : List Char) : Except Fault Host :=
  if cs.getLast? = some ']' then
    match ipv6? (cs.drop 1).dropLast with
    | some groups => .ok (.ipv6 groups)
    | none => .error .ipv6
  else .error .ipv6

/-- The host of an address whose scheme is known to have one. -/
def ofText (cs : List Char) : Except Fault Host :=
  if cs.head? = some '[' then ofBracketed cs
  else
    match (Text.ofUtf8? (decodeBytes (Text.utf8 cs))).bind Domain.toAscii with
    | none => .error .domain
    | some [] => .error .emptyHost
    | some name =>
      if endsInNumber name then
        match ipv4? name with
        | some address => .ok (.ipv4 address)
        | none => .error .ipv4
      else .ok (.domain name)

/-- Whether a host of any other address is admissible. -/
def checkOpaque (cs : List Char) : Except Fault Unit :=
  if cs.head? = some '[' then (ofBracketed cs).map fun _ => ()
  else if cs.any "\x00\t\n\r #/:<>?@[\\]^|".toList.contains then .error .domainCharacter
  else .ok ()

/-- The place and the length of the longest run of at least two zeros, the first one of those. -/
def longestRun (groups : List Nat) : Option (Nat × Nat) :=
  let runAt (i : Nat) := ((groups.drop i).takeWhile (· == 0)).length
  (List.range groups.length).foldl (fun best i =>
    let n := runAt i
    match best with
    | none => if 2 ≤ n then some (i, n) else none
    | some (_, m) => if m < n then some (i, n) else best) none

def groupChars (groups : List Nat) : List Char :=
  List.intercalate [':'] (groups.map (Nat.toDigits 16))

def chars : Host → List Char
  | .domain name => name
  | .ipv4 address =>
    List.intercalate ['.']
      ([0x1000000, 0x10000, 0x100, 1].map fun w => Nat.toDigits 10 (address / w % 256))
  | .ipv6 groups =>
    let inner :=
      match longestRun groups with
      | none => groupChars groups
      | some (i, n) =>
        groupChars (groups.take i) ++ ':' :: ':' :: groupChars (groups.drop (i + n))
    '[' :: inner ++ [']']

end Host

end Intercept.Url
