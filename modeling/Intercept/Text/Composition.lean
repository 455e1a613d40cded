import Intercept.Text.Composition.Classes
import Intercept.Text.Composition.Pairs

/-!
One spelling for what can be spelt in more ways than one. A letter that is made of others is taken
apart, marks get the order of their classes, and then whatever can be one letter becomes one.
-/

namespace Intercept.Text

/-- The syllables of Hangul stand in the order of their parts. -/
structure Syllable where
  lead : Nat
  vowel : Nat
  tail : Nat

namespace Syllable

def base : Nat := 0xAC00
def leadBase : Nat := 0x1100
def vowelBase : Nat := 0x1161
/-- The place of a tail that is not there. -/
def tailBase : Nat := 0x11A7
def leads : Nat := 19
def vowels : Nat := 21
def tails : Nat := 28

def code (s : Syllable) : Nat := base + (s.lead * vowels + s.vowel) * tails + s.tail

def ofCode? (n : Nat) : Option Syllable :=
  let place := n - base
  if base ≤ n ∧ place < leads * vowels * tails then
    some ⟨place / (vowels * tails), place / tails % vowels, place % tails⟩
  else none

def parts (s : Syllable) : List Nat :=
  [leadBase + s.lead, vowelBase + s.vowel] ++ (if s.tail = 0 then [] else [tailBase + s.tail])

/-- A lead takes a vowel, and a syllable without a tail takes a tail. -/
def join? (a b : Nat) : Option Nat :=
  if leadBase ≤ a ∧ a < leadBase + leads ∧ vowelBase ≤ b ∧ b < vowelBase + vowels then
    some (code ⟨a - leadBase, b - vowelBase, 0⟩)
  else
    match ofCode? a with
    | some s =>
      if s.tail = 0 ∧ tailBase < b ∧ b < tailBase + tails then
        some (code { s with tail := b - tailBase })
      else none
    | none => none

end Syllable

/-- The two parts of a letter that is made of two. -/
def partsOf? (n : Nat) : Option (Nat × Nat) :=
  if n < 0xC0 then none
  else pairs.findSome? fun (second, row) =>
    (row.find? (·.2 == n)).map fun (first, _) => (first, second)

/-- Takes a letter apart as far as `depth` goes. -/
def takeApart : (depth : Nat) → Nat → List Nat
  | 0, n => [n]
  | depth + 1, n =>
    match partsOf? n with
    | some (first, second) => takeApart depth first ++ [second]
    | none => [n]

/-- No letter is made of more than four. -/
def decompose (c : Char) : List Char :=
  let parts := match Syllable.ofCode? c.toNat with
    | some s => s.parts
    | none => takeApart 3 c.toNat
  parts.map Char.ofNat

def joined? (a b : Char) : Option Char :=
  if b.toNat < 0x300 then none
  else
    let pair := (pairs.lookup b.toNat).bind (·.lookup a.toNat)
    ((Syllable.join? a.toNat b.toNat).or pair).map Char.ofNat

/-- Puts a character behind the others, which stand last first: a mark goes before the marks of
higher classes that it meets. -/
def putBehind (c : Nat × Char) : List (Nat × Char) → List (Nat × Char)
  | [] => [c]
  | d :: before => if c.1 ≠ 0 ∧ c.1 < d.1 then d :: putBehind c before else c :: d :: before

/-- All characters with their classes, marks in the order of these. -/
def ordered (cs : List Char) : List (Nat × Char) :=
  (cs.foldl (fun before c => putBehind (combiningClass c, c) before) []).reverse

/-- Joins with a letter what comes behind it. `held` has the marks, last first, that did not join;
one of them keeps off those of its own class, and all of them a letter. -/
def joinFrom (letter : Char) (held : List (Nat × Char)) : List (Nat × Char) → List Char
  | [] => letter :: (held.map (·.2)).reverse
  | (k, c) :: rest =>
    let meets := match held.head? with
      | none => true
      | some (last, _) => last < k
    match (if meets then joined? letter c else none) with
    | some whole => joinFrom whole held rest
    | none =>
      if k = 0 then letter :: (held.map (·.2)).reverse ++ joinFrom c [] rest
      else joinFrom letter ((k, c) :: held) rest

def compose (cs : List Char) : List Char :=
  let all := ordered (cs.flatMap decompose)
  let bare := (all.takeWhile (·.1 ≠ 0)).map (·.2)
  match all.dropWhile (·.1 ≠ 0) with
  | [] => bare
  | (_, letter) :: rest => bare ++ joinFrom letter [] rest

end Intercept.Text
