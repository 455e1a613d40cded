import Intercept.Command
import Intercept.Envelope
import Intercept.Failure
import Intercept.Packet

/-!
What the service tells the client: a captured packet under the status of success, or a failure
under any other status.
-/

namespace Intercept

def Command.decode (s : String) : Except Violation Command :=
  (Command.record.decode s).mapError .command

inductive Notice where
  | packet (p : Packet)
  | failure (status : Int64) (payload : Json.Value)

namespace Notice

/-- The status that reports a verdict which came too late; the channel goes on. -/
def timeout : Int64 := 408

def packetCode : Int64 := 1
def errorCode : Int64 := -1

/-- The document under the status of success: a kind and its content. -/
structure Body where
  kind : Int64
  data : Json.Value

def Body.record : Json.Record Body where
  name := "Tagged"
  fields := [
    ⟨"Type", Int64, .i64, none⟩,
    ⟨"Data", Json.Value, .tree, some .null⟩]
  ofRow := fun (kind, data, ()) => ⟨kind, data⟩
  toRow b := (b.kind, b.data, ())

def ofBody (b : Body) : Except Violation Notice :=
  if b.kind = packetCode then
    ((Packet.record.ofTree b.data).map Notice.packet).mapError .packet
  else if b.kind = errorCode then .error .sentinel
  else .error (.unknownKind b.kind)

def ofEnvelope (e : Envelope) : Except Violation Notice :=
  if e.status ≠ Envelope.success then .ok (.failure e.status e.data)
  else do ofBody (← (Body.record.ofTree e.data).mapError .body)

def decode (s : String) : Except Violation Notice := do
  ofEnvelope (← (Envelope.record.decode s).mapError .frame)

/-- The document of a notice. A failure under the status of success would be read as something
else, so it has none. -/
def toTree? : Notice → Option Json.Value
  | .packet p =>
    some (Envelope.record.toTree
      ⟨Envelope.success, Body.record.toTree ⟨packetCode, Packet.record.toTree p⟩⟩)
  | .failure status payload =>
    if status = Envelope.success then none else some (Envelope.record.toTree ⟨status, payload⟩)

def encode? (n : Notice) : Option String := n.toTree?.map Json.Value.text

def encode (n : Notice) : Except Failure String :=
  match n.encode? with
  | some s => .ok s
  | none => .error (.argument .successAsFailure)

end Notice

end Intercept
