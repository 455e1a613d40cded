/-!
Text for a terminal without what only drives the terminal: escape sequences are left out, and of
the other controls all but those that part words and lines.
-/

namespace Intercept.Text

/-- Where a reader stands: outside of any sequence, or how far inside of which. -/
inductive Sequence where
  | outside
  /-- Behind the escape itself. -/
  | escape
  /-- Behind a sign that stands between an escape and its last letter. -/
  | selection
  /-- Among the numbers of a control. -/
  | control
  /-- In a command, which a bell ends. -/
  | command
  /-- In a message, which has no end of its own. -/
  | message
deriving DecidableEq, Repr

def isParting (c : Char) : Bool := c == '\t' || c == '\n' || c == '\x0c' || c == '\r'

def isControl (c : Char) : Bool := c.toNat < 0x20 || c.toNat == 0x7F

/-- What the character behind an escape begins. -/
def Sequence.begin (c : Char) : Sequence :=
  if c.toNat < 0x30 then .selection
  else if c = '[' then .control
  else if c = ']' then .command
  else if c = 'P' || c = 'X' || c = '^' || c = '_' then .message
  else .outside

/-- Goes on over one character, and says whether it is shown. A new escape and a cancel end any
sequence. A parting control ends the short ones and is shown; a character beyond ASCII is lost with
the sequence that it ends. -/
def Sequence.step (place : Sequence) (c : Char) : Sequence × Bool :=
  if c = '\x1b' then (.escape, false)
  else if c = '\x18' || c = '\x1a' then (.outside, false)
  else
    match place with
    | .outside => (.outside, !isControl c || isParting c)
    | .command => (if c = '\x07' || 0x80 ≤ c.toNat then .outside else .command, false)
    | .message => (if 0x80 ≤ c.toNat then .outside else .message, false)
    | .escape | .selection | .control =>
      if isParting c then (.outside, true)
      else if isControl c then (place, false)
      else if 0x80 ≤ c.toNat then (.outside, false)
      else if place = .escape then (.begin c, false)
      else if place = .selection then (if c.toNat < 0x30 then .selection else .outside, false)
      else (if c.toNat < 0x40 then .control else .outside, false)

def plainFrom (place : Sequence) : List Char → List Char
  | [] => []
  | c :: cs =>
    let (next, shown) := place.step c
    if shown then c :: plainFrom next cs else plainFrom next cs

def plain (s : String) : String := String.ofList (plainFrom .outside s.toList)

end Intercept.Text
