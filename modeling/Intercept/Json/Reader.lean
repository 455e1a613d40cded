import Intercept.Json.Scan

/-!
Documents read from text. Containers may nest 127 deep. `items` and `members` read what stands
between the brackets with a reader for one item; the closing bracket is left to `endItems` and
`endMembers`, because a record that has all its fields closes in the same way.
-/

namespace Intercept.Json

/-- Whether another item follows in a list. -/
def moreItems (first : Bool) (cs : List Char) : Except Flaw (Bool × List Char) :=
  match skipSpace cs with
  | [] => .error .endOfList
  | c :: cs =>
    if c = ']' then .ok (false, c :: cs)
    else if first then .ok (true, c :: cs)
    else if c = ',' then
      match skipSpace cs with
      | [] => .error .endOfValue
      | d :: ds => if d = ']' then .error .trailingComma else .ok (true, d :: ds)
    else .error .noListEnd

def endItems (cs : List Char) : Except Flaw (List Char) :=
  match skipSpace cs with
  | [] => .error .endOfList
  | c :: cs =>
    if c = ']' then .ok cs
    else if c = ',' then
      match skipSpace cs with
      | ']' :: _ => .error .trailingComma
      | _ => .error .trailingCharacters
    else .error .trailingCharacters

/-- A name, at its opening quote. -/
def name : List Char → Except Flaw (Option String × List Char)
  | '"' :: cs => do
    let (s, rest) ← string cs
    .ok (some s, rest)
  | _ => .error .keyNotString

/-- The name of the next member, if another one follows. -/
def nextName (first : Bool) (cs : List Char) : Except Flaw (Option String × List Char) :=
  match skipSpace cs with
  | [] => .error .endOfObject
  | c :: cs =>
    if c = '\x7d' then .ok (none, c :: cs)
    else if first then name (c :: cs)
    else if c = ',' then
      match skipSpace cs with
      | [] => .error .endOfValue
      | d :: ds => if d = '\x7d' then .error .trailingComma else name (d :: ds)
    else .error .noObjectEnd

def colon (cs : List Char) : Except Flaw (List Char) :=
  match skipSpace cs with
  | [] => .error .endOfObject
  | c :: cs => if c = ':' then .ok cs else .error .noColon

def endMembers (cs : List Char) : Except Flaw (List Char) :=
  match skipSpace cs with
  | [] => .error .endOfObject
  | c :: cs =>
    if c = '\x7d' then .ok cs
    else if c = ',' then .error .trailingComma
    else .error .trailingCharacters

/-- The items up to the closing bracket; `fuel` bounds their number. -/
def items {α : Type} (item : List Char → Except Flaw (α × List Char)) :
    (fuel : Nat) → (first : Bool) → List Char → Except Flaw (List α × List Char)
  | 0, _, _ => .error .endOfList
  | fuel + 1, first, cs => do
    let (more, cs) ← moreItems first cs
    if more then
      let (x, cs) ← item cs
      let (xs, cs) ← items item fuel false cs
      .ok (x :: xs, cs)
    else .ok ([], cs)

/-- The members up to the closing brace, in the order of the text. -/
def members {α : Type} (item : List Char → Except Flaw (α × List Char)) :
    (fuel : Nat) → (first : Bool) → List Char → Except Flaw (List (String × α) × List Char)
  | 0, _, _ => .error .endOfObject
  | fuel + 1, first, cs => do
    match ← nextName first cs with
    | (none, cs) => .ok ([], cs)
    | (some k, cs) =>
      let cs ← colon cs
      let (x, cs) ← item cs
      let (xs, cs) ← members item fuel false cs
      .ok ((k, x) :: xs, cs)

def wholeList {α : Type} (item : List Char → Except Flaw (α × List Char)) (cs : List Char) :
    Except Flaw (List α × List Char) := do
  let (xs, cs) ← items item (cs.length + 1) true cs
  .ok (xs, ← endItems cs)

def wholeObject {α : Type} (item : List Char → Except Flaw (α × List Char)) (cs : List Char) :
    Except Flaw (List (String × α) × List Char) := do
  let (ms, cs) ← members item (cs.length + 1) true cs
  .ok (ms, ← endMembers cs)

/-- Any value, with at most `levels` containers inside each other. -/
def value (levels : Nat) (cs : List Char) : Except Flaw (Value × List Char) :=
  match head cs with
  | .error e => .error e
  | .ok (.null, cs) => .ok (.null, cs)
  | .ok (.bool b, cs) => .ok (.bool b, cs)
  | .ok (.int n, cs) => .ok (.int n, cs)
  | .ok (.float x, cs) => .ok (.float x, cs)
  | .ok (.str s, cs) => .ok (.str s, cs)
  | .ok (.list, cs) =>
    match levels with
    | 0 => .error .tooDeep
    | levels + 1 => do
      let (xs, cs) ← wholeList (value levels) cs
      .ok (.arr xs, cs)
  | .ok (.object, cs) =>
    match levels with
    | 0 => .error .tooDeep
    | levels + 1 => do
      let (ms, cs) ← wholeObject (value levels) cs
      .ok (.object ms, cs)

/-- How many containers may stand inside each other. -/
def maxLevels : Nat := 127

/-- A whole text is one item, and nothing but blanks around it. -/
def ofText {α : Type} (item : List Char → Except Flaw (α × List Char)) (s : String) :
    Except Flaw α := do
  let (x, rest) ← item s.toList
  if (skipSpace rest).isEmpty then .ok x else .error .trailingCharacters

def Value.ofText (s : String) : Except Flaw Value := Json.ofText (value maxLevels) s

end Intercept.Json
