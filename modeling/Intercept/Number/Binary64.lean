/-!
Binary fractions of 53 bits, the numbers that a document may hold beside integers. A magnitude is
`significand * 2 ^ exponent`; every operation is exact arithmetic followed by one rounding to the
nearest, ties to the even significand. The shortest text of a number is the fewest decimal digits
that round back to it, and of those the nearest.
-/

namespace Intercept

/-- A finite magnitude: either `2 ^ 52 ≤ significand < 2 ^ 53`, or the exponent is the least. -/
structure Magnitude where
  significand : Nat
  exponent : Int
deriving DecidableEq, Repr

namespace Magnitude

def leastExponent : Int := -1074
def greatestExponent : Int := 971

def zero : Magnitude := ⟨0, leastExponent⟩

/-- The nearest integer to a quotient, a half going to the even neighbour. -/
def roundDiv (num den : Nat) : Nat :=
  let q := num / den
  let r := num % den
  if 2 * r < den then q else if den < 2 * r then q + 1 else q + q % 2

/-- A power of two; one for all negative exponents. -/
def twoTo (k : Int) : Nat := Nat.pow 2 k.toNat

/-- A power of ten; one for all negative exponents. -/
def tenPow (k : Int) : Nat := Nat.pow 10 k.toNat

/-- The largest `k` with `2 ^ k ≤ num / den`. -/
def log2Ratio (num den : Nat) : Int :=
  let k : Int := (Nat.log2 num : Int) - (Nat.log2 den : Int)
  let reached := if 0 ≤ k then den * twoTo k ≤ num else den ≤ num * twoTo (-k)
  if reached then k else k - 1

/-- The magnitude nearest to `num / den`, or none where that is beyond the largest. -/
def ofRatio? (num den : Nat) : Option Magnitude :=
  if num = 0 then some zero
  else
    let e := max (log2Ratio num den - 52) leastExponent
    let m := roundDiv (num * twoTo (-e)) (den * twoTo e)
    let (m, e) := if m = twoTo 53 then (twoTo 52, e + 1) else (m, e)
    if greatestExponent < e then none else some ⟨m, e⟩

def num (x : Magnitude) : Nat := x.significand * twoTo x.exponent
def den (x : Magnitude) : Nat := twoTo (-x.exponent)

def ofNat? (n : Nat) : Option Magnitude := ofRatio? n 1

def mul? (x y : Magnitude) : Option Magnitude := ofRatio? (x.num * y.num) (x.den * y.den)

def div? (x y : Magnitude) : Option Magnitude := ofRatio? (x.num * y.den) (x.den * y.num)

/-- The largest power of ten that has a magnitude. -/
def greatestPower : Nat := 308

/-- The magnitude nearest to a power of ten. -/
def tenTo (k : Nat) : Magnitude := (ofNat? (Nat.pow 10 k)).getD zero

/-- Divides by the largest power of ten, as often as asked or until nothing is left. -/
def shrink : Nat → Magnitude → Option Magnitude
  | 0, x => some x
  | n + 1, x =>
    if x.significand = 0 then some x
    else (div? x (tenTo greatestPower)).bind (shrink n)

/-- Scales by a power of ten in one multiplication, or in as few divisions as powers of ten
allow. -/
def scale? (x : Magnitude) (power : Int) : Option Magnitude :=
  if x.significand = 0 then some x
  else if 0 ≤ power then
    if power.toNat ≤ greatestPower then mul? x (tenTo power.toNat) else none
  else
    let p := power.natAbs
    let rounds := (p - 1) / greatestPower
    (shrink rounds x).bind fun y =>
      if y.significand = 0 then some y else div? y (tenTo (p - rounds * greatestPower))

/-- The largest `k` with `10 ^ k ≤ num / den`. -/
def log10Ratio (num den : Nat) : Int :=
  if den ≤ num then ((Nat.toDigits 10 (num / den)).length : Int) - 1
  else
    let c := (Nat.toDigits 10 (den / num)).length
    if den ≤ num * Nat.pow 10 (c - 1) then 1 - (c : Int) else -(c : Int)

/-- `digits * 10 ^ power` as a quotient. -/
def decimalRatio (digits : Nat) (power : Int) : Nat × Nat :=
  (digits * tenPow power, tenPow (-power))

def readsBack (x : Magnitude) (digits : Nat) (power : Int) : Bool :=
  let (n, d) := decimalRatio digits power
  ofRatio? n d == some x

/-- The neighbour of `x` on the grid of multiples of `10 ^ power` that reads back, the nearer if
both do. -/
def onGrid? (x : Magnitude) (power : Int) : Option Nat :=
  let (n, d) := (x.num * tenPow (-power), x.den * tenPow power)
  let below := n / d
  let nearest := roundDiv n d
  let other := if nearest = below then below + 1 else below
  if readsBack x nearest power then some nearest
  else if readsBack x other power then some other
  else none

/-- Tries finer and finer grids; on the last one the nearest neighbour is taken as it is. -/
def shortestFrom (x : Magnitude) : Nat → Int → Nat × Int
  | 0, power => (roundDiv (x.num * tenPow (-power)) (x.den * tenPow power), power)
  | n + 1, power =>
    match onGrid? x power with
    | some digits => (digits, power)
    | none => shortestFrom x n (power - 1)

/-- Digits and power of ten of the shortest decimal that reads back. It may be the power of ten
just above, and seventeen digits always read back. -/
def shortest (x : Magnitude) : Nat × Int :=
  shortestFrom x 17 (log10Ratio x.num x.den + 1)

end Magnitude

structure Binary64 where
  negative : Bool
  magnitude : Magnitude
deriving DecidableEq, Repr

namespace Binary64

/-- Positional from `10 ^ -5` up to but not including `10 ^ 16`, and then always with a fraction;
otherwise one digit, the rest after a point, and a signed exponent. -/
def magnitudeChars (x : Magnitude) : List Char :=
  if x.significand = 0 then "0.0".toList
  else
    let (d, power) := x.shortest
    let ds := Nat.toDigits 10 d
    let lead := power + ds.length - 1
    if -5 ≤ lead ∧ lead < 16 then
      if 0 ≤ power then ds ++ List.replicate power.toNat '0' ++ ".0".toList
      else if 0 ≤ lead then
        ds.take (lead.toNat + 1) ++ '.' :: ds.drop (lead.toNat + 1)
      else "0.".toList ++ List.replicate (-lead - 1).toNat '0' ++ ds
    else
      let fraction := if ds.length = 1 then [] else '.' :: ds.drop 1
      let sign := if lead < 0 then '-' else '+'
      ds.take 1 ++ fraction ++ 'e' :: sign :: Nat.toDigits 10 lead.natAbs

def chars (x : Binary64) : List Char :=
  if x.negative then '-' :: magnitudeChars x.magnitude else magnitudeChars x.magnitude

end Binary64

end Intercept
