import Intercept.Json.Flaw
import Intercept.Text.Utf8

/-!
The scalars of a text. Each reader takes the characters from where its scalar begins and returns
what follows it. `head` reads the next scalar, or notes which container opens.
-/

namespace Intercept.Json

def isSpace (c : Char) : Bool := c == ' ' || c == '\n' || c == '\t' || c == '\r'

def skipSpace (cs : List Char) : List Char := cs.dropWhile isSpace

/-- Expects the letters of a literal, one by one. -/
def literal : List Char → List Char → Except Flaw (List Char)
  | [], cs => .ok cs
  | _ :: _, [] => .error .endOfValue
  | w :: ws, c :: cs => if w = c then literal ws cs else .error .noLiteral

def hexValue? (c : Char) : Option Nat :=
  let n := c.toNat
  if 48 ≤ n ∧ n ≤ 57 then some (n - 48)
  else if 97 ≤ n ∧ n ≤ 102 then some (n - 87)
  else if 65 ≤ n ∧ n ≤ 70 then some (n - 55)
  else none

/-- The four digits after a `u`. They are counted in bytes when the text ends too early. -/
def hexEscape : List Char → Except Flaw (Nat × List Char)
  | a :: b :: c :: d :: rest =>
    match hexValue? a, hexValue? b, hexValue? c, hexValue? d with
    | some a, some b, some c, some d => .ok (((a * 16 + b) * 16 + c) * 16 + d, rest)
    | _, _, _, _ => .error .badEscape
  | cs => if (Text.utf8 cs).length < 4 then .error .endOfString else .error .badEscape

/-- The second half of a pair, after its first half `high`. -/
def lowHalf (high : Nat) : List Char → Except Flaw (Char × List Char)
  | [] => .error .endOfString
  | '\\' :: [] => .error .endOfString
  | '\\' :: 'u' :: cs => do
    let (low, rest) ← hexEscape cs
    if 0xDC00 ≤ low ∧ low ≤ 0xDFFF then
      .ok (Char.ofNat (0x10000 + (high - 0xD800) * 0x400 + (low - 0xDC00)), rest)
    else .error .loneSurrogate
  | _ => .error .endOfHexEscape

def unicodeEscape (cs : List Char) : Except Flaw (Char × List Char) := do
  let (n, rest) ← hexEscape cs
  if 0xDC00 ≤ n ∧ n ≤ 0xDFFF then .error .loneSurrogate
  else if 0xD800 ≤ n ∧ n ≤ 0xDBFF then lowHalf n rest
  else .ok (Char.ofNat n, rest)

/-- What a letter after a backslash stands for. -/
def shortEscape? (c : Char) : Option Char :=
  if c = '"' ∨ c = '\\' ∨ c = '/' then some c
  else if c = 'b' then some '\x08'
  else if c = 'f' then some '\x0c'
  else if c = 'n' then some '\n'
  else if c = 'r' then some '\r'
  else if c = 't' then some '\t'
  else none

def escape : List Char → Except Flaw (Char × List Char)
  | [] => .error .endOfString
  | c :: cs =>
    if c = 'u' then unicodeEscape cs
    else match shortEscape? c with
      | some x => .ok (x, cs)
      | none => .error .badEscape

/-- The characters up to the closing quote; `fuel` bounds their number. -/
def stringRest : (fuel : Nat) → List Char → Except Flaw (List Char × List Char)
  | 0, _ => .error .endOfString
  | _ + 1, [] => .error .endOfString
  | fuel + 1, c :: cs =>
    if c = '"' then .ok ([], cs)
    else if c = '\\' then do
      let (x, rest) ← escape cs
      let (xs, rest) ← stringRest fuel rest
      .ok (x :: xs, rest)
    else if c.toNat < 32 then .error .controlCharacter
    else do
      let (xs, rest) ← stringRest fuel cs
      .ok (c :: xs, rest)

/-- A string whose opening quote has been read. -/
def string (cs : List Char) : Except Flaw (String × List Char) := do
  let (xs, rest) ← stringRest cs.length cs
  .ok (String.ofList xs, rest)

def digitValue (c : Char) : Nat := c.toNat - 48

/-- Appends digits to a significand while it stays below `2 ^ 64`, and counts them. -/
def takeDigits (m count : Nat) : List Char → Nat × Nat × List Char
  | [] => (m, count, [])
  | c :: cs =>
    if c.isDigit ∧ m * 10 + digitValue c < UInt64.size then
      takeDigits (m * 10 + digitValue c) (count + 1) cs
    else (m, count, c :: cs)

def skipDigits (cs : List Char) : List Char := cs.dropWhile Char.isDigit

/-- `m * 10 ^ power`, rounded once for the significand and once for the scaling. -/
def scaled (negative : Bool) (m : Nat) (power : Int) : Except Flaw Head :=
  match (Magnitude.ofNat? m).bind (·.scale? power) with
  | some x => .ok (.float ⟨negative, x⟩)
  | none => .error .numberOutOfRange

/-- A digit has to stand here. -/
def needDigit : List Char → Except Flaw Unit
  | [] => .error .endOfValue
  | c :: _ => if c.isDigit then .ok () else .error .badNumber

/-- The exponent, after its letter. -/
def exponent (negative : Bool) (m : Nat) (power : Int) (cs : List Char) :
    Except Flaw (Head × List Char) := do
  let (down, cs) := match cs with
    | '+' :: r => (false, r)
    | '-' :: r => (true, r)
    | r => (false, r)
  needDigit cs
  let n : Int := Nat.ofDigitChars 10 (cs.takeWhile Char.isDigit) 0
  let x ← scaled negative m (if down then power - n else power + n)
  .ok (x, skipDigits cs)

def isExponentMark (c : Char) : Bool := c == 'e' || c == 'E'

/-- What may follow the digits of a fraction. -/
def afterFraction (negative : Bool) (m : Nat) (power : Int) :
    List Char → Except Flaw (Head × List Char)
  | [] => do .ok (← scaled negative m power, [])
  | c :: cs =>
    if isExponentMark c then exponent negative m power cs
    else do .ok (← scaled negative m power, c :: cs)

/-- The fraction, after its point. Digits that do not fit into the significand are dropped. -/
def fraction (negative : Bool) (m : Nat) (power : Int) (cs : List Char) :
    Except Flaw (Head × List Char) := do
  needDigit cs
  let (m, count, rest) := takeDigits m 0 cs
  afterFraction negative m (power - count) (skipDigits rest)

/-- A number without fraction and exponent, all of whose digits fit. There is no integer zero with
a sign, and none below `-2^63`. -/
def whole (negative : Bool) (m : Nat) : Except Flaw Head :=
  if ¬ negative then .ok (.int m)
  else if 0 < m ∧ m ≤ Int64.size / 2 then .ok (.int (-m))
  else scaled true m 0

/-- What may follow the whole digits, `dropped` of which did not fit. -/
def afterWhole (negative : Bool) (m dropped : Nat) : List Char → Except Flaw (Head × List Char)
  | [] => do .ok (← if dropped = 0 then whole negative m else scaled negative m dropped, [])
  | c :: cs =>
    if c = '.' then fraction negative m dropped cs
    else if isExponentMark c then exponent negative m dropped cs
    else do
      .ok (← if dropped = 0 then whole negative m else scaled negative m dropped, c :: cs)

/-- A number after its sign. A zero in front stands alone. -/
def number (negative : Bool) : List Char → Except Flaw (Head × List Char)
  | [] => .error .endOfValue
  | c :: cs =>
    if c = '0' then
      match cs with
      | [] => afterWhole negative 0 0 []
      | d :: ds => if d.isDigit then .error .badNumber else afterWhole negative 0 0 (d :: ds)
    else if c.isDigit then
      let (m, _, rest) := takeDigits (digitValue c) 0 cs
      afterWhole negative m (rest.takeWhile Char.isDigit).length (skipDigits rest)
    else .error .badNumber

def head (cs : List Char) : Except Flaw (Head × List Char) :=
  match skipSpace cs with
  | [] => .error .endOfValue
  | c :: cs =>
    if c = 'n' then do .ok (.null, ← literal "ull".toList cs)
    else if c = 't' then do .ok (.bool true, ← literal "rue".toList cs)
    else if c = 'f' then do .ok (.bool false, ← literal "alse".toList cs)
    else if c = '-' then number true cs
    else if c.isDigit then number false (c :: cs)
    else if c = '"' then do
      let (s, rest) ← string cs
      .ok (.str s, rest)
    else if c = '[' then .ok (.list, cs)
    else if c = '\x7b' then .ok (.object, cs)
    else .error .noValue

end Intercept.Json
