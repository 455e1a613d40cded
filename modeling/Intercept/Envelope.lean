import Intercept.Json.Record

/-!
The wrapper around everything that the service sends: a status and a document, null if it is
left out.
-/

namespace Intercept

structure Envelope where
  status : Int64
  data : Json.Value

namespace Envelope

def success : Int64 := 200

def record : Json.Record Envelope where
  name := "Envelope"
  fields := [
    ⟨"Status", Int64, .i64, none⟩,
    ⟨"Data", Json.Value, .tree, some .null⟩]
  ofRow := fun (status, data, ()) => ⟨status, data⟩
  toRow e := (e.status, e.data, ())

end Envelope

end Intercept
