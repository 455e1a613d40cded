import Intercept.Json.Scan

/-!
Values that nobody asked for. They are passed over with a check of their form only: nesting has
no limit, a number no range, and an escaped code point need not be a character.
-/

namespace Intercept.Json.Skip

inductive Frame where
  | list
  | object
deriving DecidableEq, Repr

def Frame.closer : Frame → Char
  | .list => ']'
  | .object => '\x7d'

def Frame.ended : Frame → Flaw
  | .list => .endOfList
  | .object => .endOfObject

def Frame.unseparated : Frame → Flaw
  | .list => .noListEnd
  | .object => .noObjectEnd

def stringRest : (fuel : Nat) → List Char → Except Flaw (List Char)
  | 0, _ => .error .endOfString
  | _ + 1, [] => .error .endOfString
  | fuel + 1, c :: cs =>
    if c = '"' then .ok cs
    else if c = '\\' then
      match cs with
      | [] => .error .endOfString
      | d :: ds =>
        if d = 'u' then
          match hexEscape ds with
          | .error e => .error e
          | .ok (_, rest) => stringRest fuel rest
        else if (shortEscape? d).isSome then stringRest fuel ds
        else .error .badEscape
    else if c.toNat < 32 then .error .controlCharacter
    else stringRest fuel cs

def string (cs : List Char) : Except Flaw (List Char) := stringRest cs.length cs

/-- At least one digit. -/
def digits : List Char → Except Flaw (List Char)
  | [] => .error .badNumber
  | c :: cs => if c.isDigit then .ok (skipDigits cs) else .error .badNumber

def exponent (cs : List Char) : Except Flaw (List Char) :=
  match cs with
  | '+' :: r => digits r
  | '-' :: r => digits r
  | r => digits r

def afterFraction : List Char → Except Flaw (List Char)
  | [] => .ok []
  | c :: cs => if isExponentMark c then exponent cs else .ok (c :: cs)

def afterWhole : List Char → Except Flaw (List Char)
  | [] => .ok []
  | c :: cs =>
    if c = '.' then do afterFraction (← digits cs)
    else if isExponentMark c then exponent cs
    else .ok (c :: cs)

def startsWithDigit : List Char → Bool
  | [] => false
  | c :: _ => c.isDigit

def number : List Char → Except Flaw (List Char)
  | [] => .error .badNumber
  | c :: cs =>
    if c = '0' then
      if startsWithDigit cs then .error .badNumber else afterWhole cs
    else if c.isDigit then afterWhole (skipDigits cs)
    else .error .badNumber

/-- Where the scan stands: before a value or behind one, with the containers that are open, the
innermost first. -/
structure State where
  behind : Bool
  frames : List Frame
  rest : List Char

/-- A name and its colon, in an object. -/
def member (cs : List Char) : Except Flaw (List Char) :=
  match skipSpace cs with
  | [] => .error .endOfObject
  | '"' :: cs => do
    let cs ← string cs
    match skipSpace cs with
    | [] => .error .endOfObject
    | c :: cs => if c = ':' then .ok cs else .error .noColon
  | _ => .error .keyNotString

/-- The next value of a container begins. -/
def next (frame : Frame) (outer : List Frame) (cs : List Char) : Except Flaw State :=
  match frame with
  | .list => .ok ⟨false, frame :: outer, cs⟩
  | .object => do .ok ⟨false, frame :: outer, ← member cs⟩

def enter (frame : Frame) (outer : List Frame) (cs : List Char) : Except Flaw State :=
  match skipSpace cs with
  | [] => .error frame.ended
  | c :: cs => if c = frame.closer then .ok ⟨true, outer, cs⟩ else next frame outer (c :: cs)

def leave (frame : Frame) (outer : List Frame) (cs : List Char) : Except Flaw State :=
  match skipSpace cs with
  | [] => .error frame.ended
  | c :: cs =>
    if c = ',' then next frame outer cs
    else if c = frame.closer then .ok ⟨true, outer, cs⟩
    else .error frame.unseparated

def before (frames : List Frame) (cs : List Char) : Except Flaw State :=
  match skipSpace cs with
  | [] => .error .endOfValue
  | c :: cs =>
    if c = '[' then enter .list frames cs
    else if c = '\x7b' then enter .object frames cs
    else do
      let rest ←
        if c = 'n' then literal "ull".toList cs
        else if c = 't' then literal "rue".toList cs
        else if c = 'f' then literal "alse".toList cs
        else if c = '-' then number cs
        else if c.isDigit then number (c :: cs)
        else if c = '"' then string cs
        else .error .noValue
      .ok ⟨true, frames, rest⟩

/-- Every round takes at least one character. -/
def run : (fuel : Nat) → State → Except Flaw (List Char)
  | 0, _ => .error .endOfValue
  | fuel + 1, ⟨behind, frames, cs⟩ =>
    if behind then
      match frames with
      | [] => .ok cs
      | frame :: outer =>
        match leave frame outer cs with
        | .ok s => run fuel s
        | .error e => .error e
    else
      match before frames cs with
      | .ok s => run fuel s
      | .error e => .error e

end Skip

/-- What follows one value of any kind. -/
def skipValue (cs : List Char) : Except Flaw (List Char) :=
  Skip.run (cs.length + 1) ⟨false, [], cs⟩

end Intercept.Json
