import Intercept.Json.Record

/-!
What the client tells the service: inject bytes into a proxy, close a proxy, or let a captured
packet pass or not.
-/

namespace Intercept

inductive CommandKind where
  | inject
  | close
  | filter
deriving DecidableEq, Repr

namespace CommandKind

def code : CommandKind → Int64
  | .inject => 1
  | .close => 2
  | .filter => 3

def ofCode? (n : Int64) : Option CommandKind :=
  if n = 1 then some .inject
  else if n = 2 then some .close
  else if n = 3 then some .filter
  else none

def ofInt (n : Int64) : Except Json.Flaw CommandKind :=
  match ofCode? n with
  | some kind => .ok kind
  | none => .error (.refused s!"unknown control message type {n}")

def cell : Json.Cell CommandKind where
  ofText levels cs := do
    let (n, rest) ← Json.Cell.i64.ofText levels cs
    .ok (← ofInt n, rest)
  ofTree v := do ofInt (← Json.Cell.i64.ofTree v)
  toTree kind := Json.Cell.i64.toTree kind.code

end CommandKind

/-- Where injected bytes go. -/
inductive Direction where
  | toClient
  | toServer
  | both
deriving DecidableEq, Repr

namespace Direction

def bits : Direction → UInt32
  | .toClient => 1
  | .toServer => 2
  | .both => 3

def ofFlags? (toClient toServer : Bool) : Option Direction :=
  match toClient, toServer with
  | true, true => some .both
  | true, false => some .toClient
  | false, true => some .toServer
  | false, false => none

end Direction

/-- `target` is a proxy, or the number of a packet if the command is a verdict; `extra` is the
direction of an injection or the verdict. -/
structure Command where
  kind : CommandKind
  target : Int64
  data : List UInt8
  extra : UInt32
deriving DecidableEq, Repr

namespace Command

def allowBit : UInt32 := 1

def filter (packet : Int64) (allow : Bool) : Command :=
  ⟨.filter, packet, [], if allow then allowBit else 0⟩

def inject (target : Int64) (data : List UInt8) (direction : Direction) : Command :=
  ⟨.inject, target, data, direction.bits⟩

def close (target : Int64) : Command := ⟨.close, target, [], 0⟩

/-- The verdict of a filter command. -/
def allows (c : Command) : Bool := c.extra &&& allowBit != 0

def record : Json.Record Command where
  name := "ControlMessage"
  fields := [
    ⟨"Type", CommandKind, CommandKind.cell, none⟩,
    ⟨"Target", Int64, .i64, none⟩,
    ⟨"Data", List UInt8, .payload, none⟩,
    ⟨"Extra", UInt32, .u32, none⟩]
  ofRow := fun (kind, target, data, extra, ()) => ⟨kind, target, data, extra⟩
  toRow c := (c.kind, c.target, c.data, c.extra, ())

def encode (c : Command) : String := record.encode c

end Command

end Intercept
