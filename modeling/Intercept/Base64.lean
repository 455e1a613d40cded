import Intercept.Text.Utf8

/-!
Payload bytes as text. Three bytes become four letters of the standard alphabet, and a short
last group is filled up with '='. Reading accepts exactly the texts that writing produces; for
any other text it names the first thing that is wrong, counted in bytes of the text.
-/

namespace Intercept.Base64

inductive Fault where
  | symbol (offset : Nat) (byte : UInt8)
  | lastSymbol (offset : Nat) (byte : UInt8)
  | length (n : Nat)
  | padding
deriving DecidableEq, Repr

def Fault.message : Fault → String
  | .symbol offset byte => s!"Invalid symbol {byte}, offset {offset}."
  | .lastSymbol offset byte => s!"Invalid last symbol {byte}, offset {offset}."
  | .length n => s!"Invalid input length: {n}"
  | .padding => "Invalid padding"

def letter (n : Nat) : Char :=
  if n < 26 then Char.ofNat (65 + n)
  else if n < 52 then Char.ofNat (71 + n)
  else if n < 62 then Char.ofNat (n - 4)
  else if n = 62 then '+'
  else '/'

/-- The six bits that a letter stands for. -/
def sextet? (b : UInt8) : Option Nat :=
  let n := b.toNat
  if 65 ≤ n ∧ n ≤ 90 then some (n - 65)
  else if 97 ≤ n ∧ n ≤ 122 then some (n - 71)
  else if 48 ≤ n ∧ n ≤ 57 then some (n + 4)
  else if n = 43 then some 62
  else if n = 47 then some 63
  else none

def pad : UInt8 := 61

def encode : List UInt8 → List Char
  | [] => []
  | [a] => [letter (a.toNat / 4), letter (a.toNat % 4 * 16), '=', '=']
  | [a, b] =>
    [letter (a.toNat / 4), letter (a.toNat % 4 * 16 + b.toNat / 16),
      letter (b.toNat % 16 * 4), '=']
  | a :: b :: c :: rest =>
    letter (a.toNat / 4) :: letter (a.toNat % 4 * 16 + b.toNat / 16) ::
      letter (b.toNat % 16 * 4 + c.toNat / 64) :: letter (c.toNat % 64) :: encode rest

/-- The bytes of two, three or four sextets; bits beyond the last whole byte are dropped. -/
def octets : List Nat → List UInt8
  | w :: x :: y :: z :: _ =>
    [UInt8.ofNat (w * 4 + x / 16), UInt8.ofNat (x % 16 * 16 + y / 4), UInt8.ofNat (y % 4 * 64 + z)]
  | [w, x, y] => [UInt8.ofNat (w * 4 + x / 16), UInt8.ofNat (x % 16 * 16 + y / 4)]
  | [w, x] => [UInt8.ofNat (w * 4 + x / 16)]
  | _ => []

/-- The bits that `octets` drops. -/
def spare : List Nat → Nat
  | [_, x] => x % 16
  | [_, _, y] => y % 4
  | _ => 0

def sextet (offset : Nat) (b : UInt8) : Except Fault Nat :=
  match sextet? b with
  | some n => .ok n
  | none => .error (.symbol offset b)

/-- What the last group holds: its sextets, how many '=' follow, and its last letter. -/
structure Tail where
  sextets : List Nat := []
  pads : Nat := 0
  last : UInt8 := 0

/-- Reads the last group. A '=' may stand third or fourth and only '=' may follow it. -/
def tail (start : Nat) (t : Tail) : List UInt8 → Except Fault Tail
  | [] => .ok t
  | b :: bs =>
    let i := t.sextets.length + t.pads
    if b = pad then
      if i < 2 then .error (.symbol (start + i) b)
      else tail start { t with pads := t.pads + 1 } bs
    else if 0 < t.pads then .error (.symbol (start + t.sextets.length) pad)
    else do
      let n ← sextet (start + i) b
      tail start { t with sextets := t.sextets ++ [n], last := b } bs

def lastGroup (start : Nat) (bs : List UInt8) : Except Fault (List UInt8) := do
  let t ← tail start {} bs
  let n := t.sextets.length
  if ¬ bs.isEmpty ∧ n < 2 then .error (.length (start + n))
  else if (n + t.pads) % 4 ≠ 0 then .error .padding
  else if spare t.sextets ≠ 0 then .error (.lastSymbol (start + n - 1) t.last)
  else .ok (octets t.sextets)

/-- Every group but the last is four letters. -/
def groups (start : Nat) : List UInt8 → Except Fault (List UInt8)
  | a :: b :: c :: d :: e :: rest => do
    let w ← sextet start a
    let x ← sextet (start + 1) b
    let y ← sextet (start + 2) c
    let z ← sextet (start + 3) d
    let more ← groups (start + 4) (e :: rest)
    return octets [w, x, y, z] ++ more
  | bs => lastGroup start bs

/-- A lone last byte that is no letter is blamed first: it is most often a line end. -/
def stray (bs : List UInt8) : Option UInt8 :=
  if bs.length % 4 = 1 then
    bs.getLast?.filter fun b => b != pad && (sextet? b).isNone
  else none

def decode (s : String) : Except Fault (List UInt8) :=
  let bs := Text.utf8 s.toList
  match stray bs with
  | some b => .error (.symbol (bs.length - 1) b)
  | none => groups 0 bs

end Intercept.Base64
