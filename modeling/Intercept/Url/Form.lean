import Intercept.Url.Percent

/-!
Form encoding of names and values in a query. A blank is written as a plus sign; letters, digits
and `*`, `-`, `.`, `_` stand as they are.
-/

namespace Intercept.Url.Form

def plainBytes : List UInt8 := [42, 45, 46, 95]

def isPlain (b : UInt8) : Bool :=
  (48 ≤ b && b ≤ 57) || (65 ≤ b && b ≤ 90) || (97 ≤ b && b ≤ 122) || plainBytes.contains b

def encodeByte (b : UInt8) : List Char :=
  if b = 32 then ['+'] else if isPlain b then [Char.ofNat b.toNat] else percentByte b

def encode (s : String) : List Char := (Text.utf8 s.toList).flatMap encodeByte

def pair (name value : String) : List Char := encode name ++ '=' :: encode value

/-- Parts joined by ampersands. -/
def join : List (List Char) → List Char
  | [] => []
  | [p] => p
  | p :: q :: ps => p ++ '&' :: join (q :: ps)

/-- The parts between separators. -/
def split (separator : Char) : List Char → List (List Char)
  | [] => [[]]
  | c :: cs =>
    match split separator cs with
    | [] => [[c]]
    | p :: ps => if c = separator then [] :: p :: ps else (c :: p) :: ps

def decodeText (cs : List Char) : String :=
  String.ofList (Text.ofUtf8 (decodeBytes (Text.utf8 (cs.map fun c => if c = '+' then ' ' else c))))

def decodePair (cs : List Char) : String × String :=
  (decodeText (cs.takeWhile (· ≠ '=')), decodeText ((cs.dropWhile (· ≠ '=')).drop 1))

/-- The names and values of a query, in their order. -/
def decode (query : List Char) : List (String × String) :=
  ((split '&' query).filter fun part => !part.isEmpty).map decodePair

end Intercept.Url.Form
