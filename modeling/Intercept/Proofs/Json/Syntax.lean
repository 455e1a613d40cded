import Intercept.Json.Skip
import Intercept.Proofs.Json.Scalars

/-!
The syntax of documents, apart from what the readers make of it. A text is a row of tokens with any
blanks around them. A string is spelt in pieces, and a number in digits; a piece need not stand for
a whole character, and a number need not be in range.
-/

namespace Intercept.Json

/-! Strings -/

structure HexDigit where
  char : Char
  value : Nat
  valid : hexValue? char = some value

/-- What one step in a string spells: a character, a letter behind a backslash, or half or all of a
character by its number. -/
inductive Piece where
  | plain (c : Char) (valid : c ≠ '"' ∧ c ≠ '\\' ∧ ¬ c.toNat < 32)
  | letter (c x : Char) (valid : shortEscape? c = some x)
  | unit (a b c d : HexDigit)

namespace Piece

def chars : Piece → List Char
  | plain c _ => [c]
  | letter c _ _ => ['\\', c]
  | unit a b c d => ['\\', 'u', a.char, b.char, c.char, d.char]

def number (a b c d : HexDigit) : Nat := ((a.value * 16 + b.value) * 16 + c.value) * 16 + d.value

/-- The number of the first half of a character. -/
def IsHigh (n : Nat) : Prop := 0xD800 ≤ n ∧ n ≤ 0xDBFF

def IsLow (n : Nat) : Prop := 0xDC00 ≤ n ∧ n ≤ 0xDFFF

instance (n : Nat) : Decidable (IsHigh n) := inferInstanceAs (Decidable (_ ∧ _))
instance (n : Nat) : Decidable (IsLow n) := inferInstanceAs (Decidable (_ ∧ _))

def pair (high low : Nat) : Char := Char.ofNat (0x10000 + (high - 0xD800) * 0x400 + (low - 0xDC00))

/-- The characters that a string stands for, if none of them is half a one. -/
def spelt? : List Piece → Option (List Char)
  | [] => some []
  | plain c _ :: ps => (spelt? ps).map (c :: ·)
  | letter _ x _ :: ps => (spelt? ps).map (x :: ·)
  | unit a b c d :: ps =>
    if IsLow (number a b c d) then none
    else if IsHigh (number a b c d) then
      match ps with
      | unit a' b' c' d' :: qs =>
        if IsLow (number a' b' c' d') then
          (spelt? qs).map (pair (number a b c d) (number a' b' c' d') :: ·)
        else none
      | _ => none
    else (spelt? ps).map (Char.ofNat (number a b c d) :: ·)

def text? (ps : List Piece) : Option String := (spelt? ps).map String.ofList

def quoted (ps : List Piece) : List Char := '"' :: (ps.flatMap chars ++ ['"'])

end Piece

/-! Numbers -/

def AllDigits (ds : List Char) : Prop := ∀ c ∈ ds, c.isDigit = true

/-- The digits of a whole number. A zero in front stands alone. -/
inductive IsWhole : List Char → Prop where
  | zero : IsWhole ['0']
  | digits {c : Char} {ds : List Char} :
      c.isDigit = true → c ≠ '0' → AllDigits ds → IsWhole (c :: ds)

inductive IsFraction : List Char → Prop where
  | none : IsFraction []
  | point {ds : List Char} : ds ≠ [] → AllDigits ds → IsFraction ('.' :: ds)

inductive IsExponent : List Char → Prop where
  | none : IsExponent []
  | plain {e : Char} {ds : List Char} :
      isExponentMark e = true → ds ≠ [] → AllDigits ds → IsExponent (e :: ds)
  | signed {e s : Char} {ds : List Char} : isExponentMark e = true → s = '+' ∨ s = '-' →
      ds ≠ [] → AllDigits ds → IsExponent (e :: s :: ds)

structure Number where
  negative : Bool
  whole : List Char
  fraction : List Char
  exponent : List Char
  isWhole : IsWhole whole
  isFraction : IsFraction fraction
  isExponent : IsExponent exponent

namespace Number

def unsigned (n : Number) : List Char := n.whole ++ (n.fraction ++ n.exponent)

def chars (n : Number) : List Char := (if n.negative then ['-'] else []) ++ n.unsigned

def head? (n : Number) : Option Head := (number n.negative n.unsigned).toOption.map Prod.fst

def tree? (n : Number) : Option Value :=
  match n.head? with
  | some (.int n) => some (.int n)
  | some (.float x) => some (.float x)
  | _ => none

end Number

/-! Documents -/

inductive Doc where
  | null
  | bool (b : Bool)
  | number (n : Number)
  | str (spelling : List Piece)
  | arr (items : List Doc)
  | obj (members : List (List Piece × Doc))

def separator (first : Bool) : List (List Char) := if first then [] else [[',']]

mutual

def Doc.tokens : Doc → List (List Char)
  | .null => ["null".toList]
  | .bool true => ["true".toList]
  | .bool false => ["false".toList]
  | .number n => [n.chars]
  | .str ps => [Piece.quoted ps]
  | .arr items => ['['] :: itemTokens true items
  | .obj members => ['\x7b'] :: memberTokens true members

def itemTokens (first : Bool) : List Doc → List (List Char)
  | [] => [[']']]
  | d :: ds => separator first ++ (d.tokens ++ itemTokens false ds)

def memberTokens (first : Bool) : List (List Piece × Doc) → List (List Char)
  | [] => [['\x7d']]
  | (k, d) :: ms =>
    separator first ++ (Piece.quoted k :: [':'] :: (d.tokens ++ memberTokens false ms))

end

mutual

/-- How many containers enclose the innermost scalar; an empty container counts as one. -/
def Doc.depth : Doc → Nat
  | .arr items => docDepth items + 1
  | .obj members => memberDepth members + 1
  | _ => 0

def docDepth : List Doc → Nat
  | [] => 0
  | d :: ds => max d.depth (docDepth ds)

def memberDepth : List (List Piece × Doc) → Nat
  | [] => 0
  | (_, d) :: ms => max d.depth (memberDepth ms)

end

mutual

/-- The document in memory, if all its strings are of whole characters and all its numbers in
range. -/
def Doc.tree? : Doc → Option Value
  | .null => some .null
  | .bool b => some (.bool b)
  | .number n => n.tree?
  | .str ps => (Piece.text? ps).map .str
  | .arr items => (docTrees? items).map .arr
  | .obj members => (memberTrees? members).map .object

def docTrees? : List Doc → Option (List Value)
  | [] => some []
  | d :: ds => do
    let v ← d.tree?
    let vs ← docTrees? ds
    some (v :: vs)

def memberTrees? : List (List Piece × Doc) → Option (List (String × Value))
  | [] => some []
  | (k, d) :: ms => do
    let name ← Piece.text? k
    let v ← d.tree?
    let rest ← memberTrees? ms
    some ((name, v) :: rest)

end

/-! Texts -/

def Blanks (cs : List Char) : Prop := ∀ c ∈ cs, isSpace c = true

/-- The tokens stand in the text one behind another, with blanks around them and nothing else. -/
def Spaced : List (List Char) → List Char → Prop
  | [], cs => Blanks cs
  | t :: ts, cs => ∃ bs rest, Blanks bs ∧ Spaced ts rest ∧ cs = bs ++ (t ++ rest)

/-- A text of the document, with whatever blanks between its tokens. -/
def Doc.WrittenAs (d : Doc) (s : String) : Prop := Spaced d.tokens s.toList

end Intercept.Json
