import Intercept.Base64
import Intercept.Json.Reader

/-!
Cells: the types of the fields of records, each with its reader from text, its reader from a
document that is already in memory, and the value that it is written as. A scalar cell looks at
the head of what stands there; whatever else stands there is read as far as is needed to name it.
-/

namespace Intercept.Json

structure Cell (α : Type) where
  ofText : (levels : Nat) → List Char → Except Flaw (α × List Char)
  ofTree : Value → Except Flaw α
  toTree : α → Value

namespace Cell

def scalar {α : Type} (ofHead : Head → Except Flaw α) (toTree : α → Value) : Cell α where
  ofText _ cs := do
    let (h, rest) ← head cs
    .ok (← ofHead h, rest)
  ofTree v := ofHead v.head
  toTree := toTree

/-- An integer between two bounds. -/
def bounded (lo hi : Int) (wanted : Wanted) : Head → Except Flaw Int
  | .int n => if lo ≤ n ∧ n ≤ hi then .ok n else .error (.wrongValue (.int n) wanted)
  | h => .error (.wrongType h wanted)

def i64 : Cell Int64 :=
  scalar (fun h => (bounded Int64.minValue.toInt Int64.maxValue.toInt .i64 h).map Int64.ofInt)
    (.int ·.toInt)

def u64 : Cell UInt64 :=
  scalar (fun h => (bounded 0 (UInt64.size - 1) .u64 h).map (UInt64.ofNat ·.toNat)) (.int ·.toNat)

def u32 : Cell UInt32 :=
  scalar (fun h => (bounded 0 (UInt32.size - 1) .u32 h).map (UInt32.ofNat ·.toNat)) (.int ·.toNat)

def boolean : Cell Bool :=
  scalar
    (fun
      | .bool b => .ok b
      | h => .error (.wrongType h .boolean))
    .bool

def stringOfHead : Head → Except Flaw String
  | .str s => .ok s
  | h => .error (.wrongType h .string)

def string : Cell String := scalar stringOfHead .str

/-- Payload bytes are a string of letters; no bytes may also be written as null. -/
def payloadOfHead : Head → Except Flaw (List UInt8)
  | .null => .ok []
  | .str s =>
    match Base64.decode s with
    | .ok bytes => .ok bytes
    | .error fault => .error (.refused fault.message)
  | h => .error (.wrongType h .string)

def payload : Cell (List UInt8) :=
  scalar payloadOfHead fun bytes => .str (String.ofList (Base64.encode bytes))

/-- Any document. -/
def tree : Cell Value where
  ofText := value
  ofTree v := .ok v
  toTree v := v

/-- Names with strings. -/
def stringMap : Cell (List (String × String)) where
  ofText levels cs :=
    match head cs with
    | .error e => .error e
    | .ok (.object, cs) =>
      match levels with
      | 0 => .error .tooDeep
      | levels + 1 => do
        let (ms, cs) ← wholeObject (string.ofText levels) cs
        .ok (sortMembers ms, cs)
    | .ok (h, _) => .error (.wrongType h .map)
  ofTree
    | .obj members => members.mapM fun (k, v) => return (k, ← string.ofTree v)
    | v => .error (.wrongType v.head .map)
  toTree ms := .object (ms.map fun (k, s) => (k, .str s))

/-- A cell that may also hold null, which then stands for a given content. -/
def orNull {α : Type} (content : α) (cell : Cell α) : Cell α where
  ofText levels cs :=
    match head cs with
    | .ok (.null, rest) => .ok (content, rest)
    | _ => cell.ofText levels cs
  ofTree
    | .null => .ok content
    | v => cell.ofTree v
  toTree := cell.toTree

end Cell

end Intercept.Json
