/-!
Labels of a domain in ASCII. The characters beyond ASCII are written after the others as numbers:
how far to go on, counted over code points and places, from one such character to the next.
-/

namespace Intercept.Url.Punycode

def digit (n : Nat) : Char := if n < 26 then Char.ofNat (97 + n) else Char.ofNat (22 + n)

def digit? (c : Char) : Option Nat :=
  let n := c.toNat
  if 97 ≤ n ∧ n ≤ 122 then some (n - 97)
  else if 48 ≤ n ∧ n ≤ 57 then some (n - 22)
  else none

/-- The digits below this end a number. -/
def threshold (place bias : Nat) : Nat := min 26 (max 1 (place - bias))

def settle (delta place : Nat) : Nat :=
  if 455 < delta then settle (delta / 35) (place + 36) else place + 36 * delta / (delta + 38)
termination_by delta

/-- The bias for the number after `delta`, which was the one that made `count` characters. -/
def adapt (delta count : Nat) (first : Bool) : Nat :=
  let d := if first then delta / 700 else delta / 2
  settle (d + d / count) 0

def numberFrom (bias place n : Nat) : List Char :=
  if n < threshold place bias then [digit n]
  else
    let t := threshold place bias
    digit (t + (n - t) % (36 - t)) :: numberFrom bias (place + 36) ((n - t) / (36 - t))
termination_by n
decreasing_by
  have h : 1 ≤ threshold place bias := by unfold threshold; omega
  have : (n - threshold place bias) / (36 - threshold place bias) ≤ n - threshold place bias :=
    Nat.div_le_self _ _
  omega

structure Writer where
  out : List Char
  delta : Nat
  bias : Nat
  count : Nat

/-- One pass over a place: a smaller code point counts, the wanted one is written. -/
def writeAt (basic wanted : Nat) (w : Writer) (c : Char) : Writer :=
  if c.toNat < wanted then { w with delta := w.delta + 1 }
  else if c.toNat = wanted then
    ⟨w.out ++ numberFrom w.bias 36 w.delta, 0, adapt w.delta (w.count + 1) (w.count == basic),
      w.count + 1⟩
  else w

def writeFrom (label : List Char) (basic : Nat) : List Nat → Nat → Writer → Writer
  | [], _, w => w
  | wanted :: more, reached, w =>
    let w := { w with delta := w.delta + (wanted - reached) * (w.count + 1) }
    let w := label.foldl (writeAt basic wanted) w
    writeFrom label basic more (wanted + 1) { w with delta := w.delta + 1 }

/-- The code points beyond ASCII, ascending, each once. -/
def beyond (label : List Char) : List Nat :=
  let points := (label.map Char.toNat).filter (128 ≤ ·)
  points.mergeSort.eraseDups

def encode (label : List Char) : List Char :=
  let basic := label.filter (·.toNat < 128)
  let w := writeFrom label basic.length (beyond label) 128 ⟨[], 0, 72, basic.length⟩
  basic ++ (if basic.isEmpty then [] else ['-']) ++ w.out

/-- Reads one number; returns it with what follows. -/
def readNumber (bias : Nat) : (place weight sum : Nat) → List Char → Option (Nat × List Char)
  | _, _, _, [] => none
  | place, weight, sum, c :: cs =>
    match digit? c with
    | none => none
    | some d =>
      let t := threshold place bias
      if d < t then some (sum + d * weight, cs)
      else readNumber bias (place + 36) (weight * (36 - t)) (sum + d * weight) cs

/-- Puts one character after the other at its place; `fuel` bounds their number. -/
def readFrom : (fuel bias point start : Nat) → List Char → List Char → Option (List Char)
  | _, _, _, _, out, [] => some out
  | 0, _, _, _, _, _ :: _ => none
  | fuel + 1, bias, point, start, out, c :: cs =>
    match readNumber bias 36 1 start (c :: cs) with
    | none => none
    | some (n, rest) =>
      let count := out.length + 1
      let point := point + n / count
      if point.isValidChar then
        readFrom fuel (adapt (n - start) count (start == 0)) point
          (n % count + 1) (out.insertIdx (n % count) (Char.ofNat point)) rest
      else none

def decode (cs : List Char) : Option (List Char) :=
  let tail := (cs.reverse.takeWhile (· ≠ '-')).reverse
  let basic := (cs.take (cs.length - tail.length)).dropLast
  readFrom cs.length 72 128 0 basic tail

end Intercept.Url.Punycode
