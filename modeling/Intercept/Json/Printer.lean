import Intercept.Json.Value

/-!
Documents as text, without any blank. Quotes, backslashes and characters below the space are
escaped, the common ones by a letter; everything else stands as it is.
-/

namespace Intercept.Json

def hexDigit (n : Nat) : Char :=
  if n < 10 then Char.ofNat (48 + n) else Char.ofNat (87 + n)

def escapeChar (c : Char) : List Char :=
  if c = '"' then ['\\', '"']
  else if c = '\\' then ['\\', '\\']
  else if c = '\n' then ['\\', 'n']
  else if c = '\r' then ['\\', 'r']
  else if c = '\t' then ['\\', 't']
  else if c = '\x08' then ['\\', 'b']
  else if c = '\x0c' then ['\\', 'f']
  else if c.toNat < 32 then ['\\', 'u', '0', '0', hexDigit (c.toNat / 16), hexDigit (c.toNat % 16)]
  else [c]

def quote (s : String) : List Char := '"' :: s.toList.flatMap escapeChar ++ ['"']

def intChars (n : Int) : List Char :=
  if n < 0 then '-' :: Nat.toDigits 10 n.natAbs else Nat.toDigits 10 n.natAbs

mutual

def Value.chars : Value → List Char
  | .null => "null".toList
  | .bool true => "true".toList
  | .bool false => "false".toList
  | .int n => intChars n
  | .float x => x.chars
  | .str s => quote s
  | .arr items => '[' :: itemChars items
  | .obj members => '\x7b' :: memberChars members

/-- The items and the closing bracket. -/
def itemChars : List Value → List Char
  | [] => [']']
  | [v] => v.chars ++ [']']
  | v :: w :: vs => v.chars ++ ',' :: itemChars (w :: vs)

/-- The members and the closing brace. -/
def memberChars : List (String × Value) → List Char
  | [] => ['\x7d']
  | [(k, v)] => quote k ++ ':' :: v.chars ++ ['\x7d']
  | (k, v) :: m :: ms => quote k ++ ':' :: v.chars ++ ',' :: memberChars (m :: ms)

end

def Value.text (v : Value) : String := String.ofList v.chars

/-- A payload inside a message: a string as it is, anything else as text of the document. -/
def Value.plain : Value → String
  | .str s => s
  | v => v.text

end Intercept.Json
