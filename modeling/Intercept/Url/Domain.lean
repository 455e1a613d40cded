import Intercept.Text.Composition
import Intercept.Url.Domain.Direction
import Intercept.Url.Domain.Joining
import Intercept.Url.Domain.Mapping
import Intercept.Url.Form
import Intercept.Url.Punycode

/-!
Domain names in ASCII. Characters that may be spelt in more ways than one get one spelling; a
label with anything else beyond ASCII is written in its coded form, and a label that comes in coded
form has to be one that this module would write.
-/

namespace Intercept.Url.Domain

/-- What no name holds of ASCII: controls, the blank, and the signs that part an address. -/
def isForbidden (c : Char) : Bool :=
  c.toNat ≤ 32 || c.toNat == 127 || "%#/:<>?@[\\]^|".toList.contains c

def isAscii (label : List Char) : Bool := label.all (·.toNat < 0x80)

/-- The one spelling of a name, unless there is a character in it that no name holds. -/
def normalize (cs : List Char) : Option (List Char) := do
  let mapped := Text.compose (← cs.mapM mapChar).flatten
  if mapped.any isForbidden then none else some mapped

/-- What coded labels begin with. -/
def mark : List Char := "xn--".toList

/-- The longest label that is coded. -/
def longest : Nat := 1000

/-- The longest code that is read. -/
def longestCode : Nat := 2000

/-- The label that a code stands for. It has to have no other spelling, and no other code. -/
def ofCode? (code : List Char) : Option (List Char) := do
  if longestCode < code.length then none
  let label ← Punycode.decode code
  if !isAscii label && !label.contains '.' && normalize label == some label &&
    Punycode.encode label == code then some label else none

/-- A label as it is read, out of its code if it has one. -/
def readLabel? (label : List Char) : Option (List Char) :=
  if !mark.isPrefixOf label then some label
  else if isAscii label then ofCode? (label.drop mark.length)
  else none

/-- Whether a label may stand in a name, directions aside. -/
def isSound (label : List Char) : Bool :=
  isAscii label ||
    (!(label.head?.map Text.isMark).getD false && joinersFit label && label.length ≤ longest)

def writeLabel (label : List Char) : List Char :=
  if isAscii label then label else mark ++ Punycode.encode label

/-- The name in ASCII, unless it is no name. -/
def toAscii (cs : List Char) : Option (List Char) := do
  let labels ← (Form.split '.' (← normalize cs)).mapM readLabel?
  if labels.all isSound && keepsDirection labels then
    some (List.intercalate ['.'] (labels.map writeLabel))
  else none

end Intercept.Url.Domain
