/-!
Characters as bytes and back. Writing is the usual one to four byte form. Reading never fails:
a byte sequence that no character has is read as U+FFFD, once for each longest start of a
character that breaks off.
-/

namespace Intercept.Text

def utf8 (cs : List Char) : List UInt8 := cs.flatMap String.utf8EncodeChar

namespace Utf8

/-- The bytes that may stand second after a given first byte, and how many bytes follow it. -/
def lead (b : UInt8) : Option (Nat × UInt8 × UInt8) :=
  if 0xC2 ≤ b ∧ b ≤ 0xDF then some (1, 0x80, 0xBF)
  else if b = 0xE0 then some (2, 0xA0, 0xBF)
  else if b = 0xED then some (2, 0x80, 0x9F)
  else if 0xE1 ≤ b ∧ b ≤ 0xEF then some (2, 0x80, 0xBF)
  else if b = 0xF0 then some (3, 0x90, 0xBF)
  else if 0xF1 ≤ b ∧ b ≤ 0xF3 then some (3, 0x80, 0xBF)
  else if b = 0xF4 then some (3, 0x80, 0x8F)
  else none

/-- The part of a first byte that belongs to the code point. -/
def leadBits (b : UInt8) : Nat :=
  if b < 0xE0 then b.toNat % 32 else if b < 0xF0 then b.toNat % 16 else b.toNat % 8

inductive Step where
  | char (code : Nat) (rest : List UInt8)
  | broken (rest : List UInt8)

/-- Takes up to `n` further bytes of a character; only the first of them has bounds of its own. -/
def follow (code : Nat) : Nat → UInt8 → UInt8 → List UInt8 → Step
  | 0, _, _, bs => .char code bs
  | _ + 1, _, _, [] => .broken []
  | n + 1, lo, hi, b :: bs =>
    if lo ≤ b ∧ b ≤ hi then follow (code * 64 + b.toNat % 64) n 0x80 0xBF bs
    else .broken (b :: bs)

def step (b : UInt8) (bs : List UInt8) : Step :=
  if b < 0x80 then .char b.toNat bs
  else match lead b with
    | some (n, lo, hi) => follow (leadBits b) n lo hi bs
    | none => .broken bs

def readFrom : Nat → List UInt8 → List (Option Char)
  | 0, _ => []
  | _ + 1, [] => []
  | fuel + 1, b :: bs =>
    match step b bs with
    | .char code rest => some (Char.ofNat code) :: readFrom fuel rest
    | .broken rest => none :: readFrom fuel rest

/-- One entry for each character, `none` where the bytes are no character. -/
def read (bs : List UInt8) : List (Option Char) := readFrom bs.length bs

end Utf8

/-- The text, unless some bytes are no character. -/
def ofUtf8? (bs : List UInt8) : Option (List Char) := (Utf8.read bs).mapM id

/-- The text with U+FFFD for what is no character. -/
def ofUtf8 (bs : List UInt8) : List Char := (Utf8.read bs).map (·.getD '\uFFFD')

end Intercept.Text
