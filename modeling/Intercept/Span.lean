import Intercept.Text.Blank

/-!
Spans of time, in nanoseconds, and their texts. A text is a row of numbers with units, or a plain
number of seconds; blanks may stand anywhere but inside a unit.
-/

namespace Intercept

structure Span where
  nanos : Nat
deriving DecidableEq, Repr

namespace Span

def second : Nat := 1000000000

def ofSeconds (n : Nat) : Span := ⟨n * second⟩
def ofMillis (n : Nat) : Span := ⟨n * 1000000⟩

def seconds (d : Span) : Nat := d.nanos / second
def subsecond (d : Span) : Nat := d.nanos % second
def isZero (d : Span) : Bool := d.nanos == 0

/-- The units by their names, in nanoseconds. A month is a twelfth of a year of 365.25 days, to
the second below. -/
def units : List (List String × Nat) := [
  (["nanos", "nsec", "ns"], 1),
  (["usec", "us", "µs"], 1000),
  (["millis", "msec", "ms"], 1000000),
  (["seconds", "second", "secs", "sec", "s"], second),
  (["minutes", "minute", "min", "mins", "m"], 60 * second),
  (["hours", "hour", "hrs", "hr", "h"], 3600 * second),
  (["days", "day", "d"], 86400 * second),
  (["weeks", "week", "wks", "wk", "w"], 604800 * second),
  (["months", "month", "M"], 2630016 * second),
  (["years", "year", "yrs", "yr", "y"], 31557600 * second)]

def unit? (name : String) : Option Nat := (units.find? (·.1.contains name)).map (·.2)

def isUnitChar (c : Char) : Bool := c.isAlpha || c == 'µ'

def isNumberChar (c : Char) : Bool := c.isDigit || Text.isBlank c

/-- Numbers of a text stay below this. -/
def limit : Nat := UInt64.size

def digits (cs : List Char) : List Char := cs.filter Char.isDigit

/-- What units count in: nanoseconds if they are shorter than that, else seconds. -/
def grain (unit longest : Nat) : Nat := if unit < longest then 1 else second

/-- A number of units on top of a total. Nanoseconds are counted together with those that the total
has beyond its seconds. -/
def amount (total n unit : Nat) : Option Nat :=
  let g := grain unit second
  let behind := if g = 1 then total % second else 0
  if behind + n * (unit / g) < limit then some (n * unit) else none

/-- The digits behind a point, as a part of the unit that leaves no rest. From an hour on the part
is in whole seconds; a nanosecond has no parts. -/
def fraction (ds : List Char) (unit : Nat) : Option Nat :=
  let n := Nat.ofDigitChars 10 ds 0
  let whole := Nat.pow 10 ds.length
  let g := grain unit (3600 * second)
  let parts := n * (unit / g)
  if ds.isEmpty ∨ limit ≤ whole ∨ limit ≤ parts ∨ unit = 1 ∨ parts % whole ≠ 0 then none
  else some (parts / whole * g)

/-- Reads numbers with their units; `fuel` bounds how many there are. -/
def sum : (fuel total : Nat) → List Char → Option Nat
  | 0, _, _ => none
  | fuel + 1, total, cs => do
    let whole := cs.takeWhile isNumberChar
    let n := Nat.ofDigitChars 10 (digits whole) 0
    if (digits whole).isEmpty ∨ limit ≤ n then none
    let rest := cs.drop whole.length
    let (behind, rest) := match rest with
      | '.' :: more => (some (more.takeWhile isNumberChar), more.dropWhile isNumberChar)
      | more => (none, more)
    let name := rest.takeWhile isUnitChar
    let rest := rest.drop name.length
    let unit ← unit? (String.ofList name)
    let part ← match behind with
      | some ds => fraction (digits ds) unit
      | none => some 0
    let total := total + (← amount total n unit) + part
    if limit ≤ total / second then none
    let next := rest.dropWhile Text.isBlank
    if next.isEmpty then some total
    else if (next.head?.map Char.isDigit).getD false then sum fuel total next
    else none

/-- A plain number, with an optional plus sign. -/
def plain? (cs : List Char) : Option Nat :=
  let ds := match cs with
    | '+' :: rest => rest
    | rest => rest
  if ds.isEmpty || !ds.all Char.isDigit then none
  else
    let n := Nat.ofDigitChars 10 ds 0
    if n < limit then some n else none

def ofText? (s : String) : Option Span :=
  let cs := s.toList
  match sum (cs.length + 1) 0 (cs.dropWhile Text.isBlank) with
  | some n => some ⟨n⟩
  | none => (plain? cs).map ofSeconds

/-- Whole seconds with the digits behind a point that are needed, or milliseconds below a second.
It is meant for spans of whole milliseconds. -/
def text (d : Span) : String :=
  if d.nanos = 0 then "0ns"
  else if d.seconds = 0 then s!"{d.nanos / 1000000}ms"
  else
    let millis := d.subsecond / 1000000
    let padded := (Nat.toDigits 10 (1000 + millis)).drop 1
    let shown := (padded.reverse.dropWhile (· == '0')).reverse
    let behind := if shown.isEmpty then "" else "." ++ String.ofList shown
    s!"{d.seconds}{behind}s"

end Span

end Intercept
