import Intercept.Text.Utf8

/-!
Percent signs. A character outside ASCII, or of the set that a part of an address does not admit,
is written as its bytes, each one as `%` and two digits.
-/

namespace Intercept.Url

def upperHex (n : Nat) : Char := if n < 10 then Char.ofNat (48 + n) else Char.ofNat (55 + n)

def percentByte (b : UInt8) : List Char := ['%', upperHex (b.toNat / 16), upperHex (b.toNat % 16)]

def encodePart (refused : Char → Bool) (cs : List Char) : List Char :=
  cs.flatMap fun c =>
    if c.toNat < 128 && !refused c then [c] else (Text.utf8 [c]).flatMap percentByte

def isControl (c : Char) : Bool := c.toNat < 32 || c.toNat == 127

def refusedInFragment (c : Char) : Bool := isControl c || " \"<>`".toList.contains c
def refusedInPath (c : Char) : Bool := refusedInFragment c || "#?\x7b\x7d".toList.contains c
def refusedInUser (c : Char) : Bool := refusedInPath c || "/:;=@[\\]^|".toList.contains c
def refusedInQuery (c : Char) : Bool := isControl c || " \"#<>'".toList.contains c

def hexDigit? (b : UInt8) : Option Nat :=
  let n := b.toNat
  if 48 ≤ n ∧ n ≤ 57 then some (n - 48)
  else if 65 ≤ n ∧ n ≤ 70 then some (n - 55)
  else if 97 ≤ n ∧ n ≤ 102 then some (n - 87)
  else none

/-- A sign without two digits behind it stands for itself. -/
def decodeBytes : List UInt8 → List UInt8
  | [] => []
  | [a] => [a]
  | [a, b] => [a, b]
  | a :: b :: c :: rest =>
    if a = 37 then
      match hexDigit? b, hexDigit? c with
      | some x, some y => UInt8.ofNat (x * 16 + y) :: decodeBytes rest
      | _, _ => a :: decodeBytes (b :: c :: rest)
    else a :: decodeBytes (b :: c :: rest)

end Intercept.Url
