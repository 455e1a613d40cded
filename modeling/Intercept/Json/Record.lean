import Intercept.Json.Cell
import Intercept.Json.Printer
import Intercept.Json.Skip

/-!
Records: a name, the fields in their order, and the type they make up. A record is an object whose
unknown members are passed over, or a list of its fields in order. In text a field must not come
twice. The first thing wrong is what is reported; a field that never came is noticed last, and
the first of those in the order of the fields.
-/

namespace Intercept.Json

structure Field where
  name : String
  carrier : Type
  cell : Cell carrier
  /-- What the field holds if it does not come. -/
  absent : Option carrier := none

/-- One content for each field. -/
def Row : List Field → Type
  | [] => Unit
  | f :: fs => f.carrier × Row fs

/-- The fields that have come so far. -/
def Draft : List Field → Type
  | [] => Unit
  | f :: fs => Option f.carrier × Draft fs

namespace Draft

def empty : (fs : List Field) → Draft fs
  | [] => ()
  | _ :: fs => (none, empty fs)

/-- Reads the member `name` into its field, or passes it over if there is no such field. -/
def fill {τ : Type} (name : String) (read : {α : Type} → Cell α → Except Flaw (α × τ))
    (skip : Except Flaw τ) : (fs : List Field) → Draft fs → Except Flaw (Draft fs × τ)
  | [], d => do .ok (d, ← skip)
  | f :: fs, (x, d) =>
    if name = f.name then
      if x.isSome then .error (.duplicateField f.name)
      else do
        let (y, t) ← read f.cell
        .ok ((some y, d), t)
    else do
      let (d, t) ← fill name read skip fs d
      .ok ((x, d), t)

def finish : (fs : List Field) → Draft fs → Except Flaw (Row fs)
  | [], _ => .ok ()
  | f :: fs, (x, d) =>
    match x.or f.absent with
    | some y => do .ok (y, ← finish fs d)
    | none => .error (.missingField f.name)

end Draft

namespace Row

/-- The fields as the items of a list in text. `found` counts the items so far. -/
def ofItems (record : String) (width levels : Nat) :
    (found : Nat) → (fs : List Field) → List Char → Except Flaw (Row fs × List Char)
  | _, [], cs => .ok ((), cs)
  | found, f :: fs, cs => do
    let (more, cs) ← moreItems (found == 0) cs
    if more then
      let (x, cs) ← f.cell.ofText levels cs
      let (row, cs) ← ofItems record width levels (found + 1) fs cs
      .ok ((x, row), cs)
    else
      match f.absent with
      | some x => do
        let (row, cs) ← ofItems record width levels (found + 1) fs cs
        .ok ((x, row), cs)
      | none => .error (.tooFewItems found record width)

/-- The fields as the items of a list; what is left over is returned. -/
def ofValues (record : String) (width : Nat) :
    (found : Nat) → (fs : List Field) → List Value → Except Flaw (Row fs × List Value)
  | _, [], vs => .ok ((), vs)
  | found, f :: fs, v :: vs => do
    let x ← f.cell.ofTree v
    let (row, vs) ← ofValues record width (found + 1) fs vs
    .ok ((x, row), vs)
  | found, f :: fs, [] =>
    match f.absent with
    | some x => do
      let (row, vs) ← ofValues record width (found + 1) fs []
      .ok ((x, row), vs)
    | none => .error (.tooFewItems found record width)

def toMembers : (fs : List Field) → Row fs → List (String × Value)
  | [], _ => []
  | f :: fs, (x, row) => (f.name, f.cell.toTree x) :: toMembers fs row

end Row

structure Record (ρ : Type) where
  name : String
  fields : List Field
  ofRow : Row fields → ρ
  toRow : ρ → Row fields

namespace Record

variable {ρ : Type} (r : Record ρ)

/-- The members of an object in text, up to the closing brace. -/
def draftOfText (levels : Nat) :
    (fuel : Nat) → (first : Bool) → Draft r.fields → List Char →
      Except Flaw (Draft r.fields × List Char)
  | 0, _, _, _ => .error .endOfObject
  | fuel + 1, first, d, cs => do
    match ← nextName first cs with
    | (none, cs) => .ok (d, cs)
    | (some k, cs) =>
      let read {α : Type} (cell : Cell α) : Except Flaw (α × List Char) := do
        cell.ofText levels (← colon cs)
      let skip : Except Flaw (List Char) := do skipValue (← colon cs)
      let (d, cs) ← Draft.fill k read skip r.fields d
      draftOfText levels fuel false d cs

def draftOfMembers : Draft r.fields → List (String × Value) → Except Flaw (Draft r.fields)
  | d, [] => .ok d
  | d, (k, v) :: ms => do
    let read {α : Type} (cell : Cell α) : Except Flaw (α × Unit) := do .ok (← cell.ofTree v, ())
    let (d, _) ← Draft.fill k read (.ok ()) r.fields d
    draftOfMembers d ms

def ofText (levels : Nat) (cs : List Char) : Except Flaw (ρ × List Char) :=
  match head cs with
  | .error e => .error e
  | .ok (.list, cs) =>
    match levels with
    | 0 => .error .tooDeep
    | levels + 1 => do
      let (row, cs) ← Row.ofItems r.name r.fields.length levels 0 r.fields cs
      .ok (r.ofRow row, ← endItems cs)
  | .ok (.object, cs) =>
    match levels with
    | 0 => .error .tooDeep
    | levels + 1 => do
      let (d, cs) ← r.draftOfText levels (cs.length + 1) true (Draft.empty r.fields) cs
      let row ← Draft.finish r.fields d
      .ok (r.ofRow row, ← endMembers cs)
  | .ok (h, _) => .error (.wrongType h (.record r.name))

def ofTree : Value → Except Flaw ρ
  | .arr vs => do
    let (row, left) ← Row.ofValues r.name r.fields.length 0 r.fields vs
    if left.isEmpty then .ok (r.ofRow row) else .error (.tooManyItems vs.length)
  | .obj ms => do
    let row ← Draft.finish r.fields (← r.draftOfMembers (Draft.empty r.fields) ms)
    .ok (r.ofRow row)
  | v => .error (.wrongType v.head (.record r.name))

/-- The fields in their own order. -/
def members (x : ρ) : List (String × Value) := Row.toMembers r.fields (r.toRow x)

/-- The fields as an object, in the order of their names. -/
def toTree (x : ρ) : Value := .object (r.members x)

/-- A whole text that holds one record. -/
def decode (s : String) : Except Flaw ρ := Json.ofText (r.ofText maxLevels) s

/-- The text of a record, fields in their own order. -/
def encode (x : ρ) : String := (Value.obj (r.members x)).text

def cell : Cell ρ where
  ofText := r.ofText
  ofTree := r.ofTree
  toTree := r.toTree

end Record

/-- A list of records. -/
def listOfTree {ρ : Type} (r : Record ρ) : Value → Except Flaw (List ρ)
  | .arr vs => vs.mapM r.ofTree
  | v => .error (.wrongType v.head .list)

end Intercept.Json
