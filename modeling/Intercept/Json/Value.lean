import Intercept.Number.Binary64

/-!
Documents. An integer is any whole number from `-2^63` up to `2^64 - 1`; what lies beyond is held
as a binary fraction. The members of an object are pairs, and an object that was read has them in
ascending order of their names, each name once.
-/

namespace Intercept.Json

inductive Value where
  | null
  | bool (b : Bool)
  | int (n : Int)
  | float (x : Binary64)
  | str (s : String)
  | arr (items : List Value)
  | obj (members : List (String × Value))
deriving Inhabited

/-- Puts a member at its place; a member of the same name is replaced. -/
def insertMember {α : Type} (name : String) (x : α) : List (String × α) → List (String × α)
  | [] => [(name, x)]
  | (k, y) :: rest =>
    if name < k then (name, x) :: (k, y) :: rest
    else if name = k then (name, x) :: rest
    else (k, y) :: insertMember name x rest

/-- The members in ascending order of their names; of two with one name the last counts. -/
def sortMembers {α : Type} (members : List (String × α)) : List (String × α) :=
  members.foldl (fun ms m => insertMember m.1 m.2 ms) []

def Value.object (members : List (String × Value)) : Value := .obj (sortMembers members)

/-- What a value shows without looking inside a container: a whole scalar, or which container
opens. -/
inductive Head where
  | null
  | bool (b : Bool)
  | int (n : Int)
  | float (x : Binary64)
  | str (s : String)
  | list
  | object

def Value.head : Value → Head
  | .null => .null
  | .bool b => .bool b
  | .int n => .int n
  | .float x => .float x
  | .str s => .str s
  | .arr _ => .list
  | .obj _ => .object

mutual

/-- How many containers enclose the innermost scalar; an empty container counts as one. -/
def Value.depth : Value → Nat
  | .arr items => depthItems items + 1
  | .obj members => depthMembers members + 1
  | _ => 0

def depthItems : List Value → Nat
  | [] => 0
  | v :: vs => max v.depth (depthItems vs)

def depthMembers : List (String × Value) → Nat
  | [] => 0
  | (_, v) :: ms => max v.depth (depthMembers ms)

end

end Intercept.Json
