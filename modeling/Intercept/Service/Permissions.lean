import Intercept.Json.Cell

/-!
What a key is good for, one bit for each permission.
-/

namespace Intercept

structure Permissions where
  bits : UInt64
deriving DecidableEq, Repr

namespace Permissions

def checkStatus : Permissions := ⟨1⟩
def close : Permissions := ⟨2⟩
def useWebsocket : Permissions := ⟨4⟩
def filter : Permissions := ⟨8⟩
def inject : Permissions := ⟨16⟩
def makeKeys : Permissions := ⟨32⟩
def duplicateKeys : Permissions := ⟨64⟩
def all : Permissions := ⟨0x0fffffffffffffff⟩

def union (a b : Permissions) : Permissions := ⟨a.bits ||| b.bits⟩

def contains (a b : Permissions) : Bool := a.bits &&& b.bits == b.bits

def isEmpty (a : Permissions) : Bool := a.bits == 0

/-- Every permission with its name. -/
def table : List (String × Permissions) := [
  ("CHECK_STATUS", checkStatus), ("CLOSE", close), ("USE_WEBSOCKET", useWebsocket),
  ("FILTER", filter), ("INJECT", inject), ("MAKE_KEYS", makeKeys),
  ("DUPLICATE_KEYS", duplicateKeys), ("ALL", all)]

def names (a : Permissions) : List String := (table.filter (a.contains ·.2)).map (·.1)

def cell : Json.Cell Permissions where
  ofText levels cs := do
    let (n, rest) ← Json.Cell.u64.ofText levels cs
    .ok (⟨n⟩, rest)
  ofTree v := do .ok ⟨← Json.Cell.u64.ofTree v⟩
  toTree a := Json.Cell.u64.toTree a.bits

end Permissions

end Intercept
