import Intercept.Envelope
import Intercept.Proofs.Json.Accepted
import Intercept.Proofs.Json.Printed

/-!
What an envelope says, whatever else its text holds: a status and a document, each of them once, and
no document stands for null.
-/

namespace Intercept

open Json

namespace Envelope

theorem proper : record.Proper where
  names := by decide
  ofRow _ := rfl

theorem agrees : ∀ f ∈ record.fields, f.cell.Agrees := by
  simp only [record, List.forall_mem_cons]
  exact ⟨Cell.agrees_i64, Cell.agrees_tree, List.forall_mem_nil _⟩

theorem documents : ∀ f ∈ record.fields, ∀ levels, Documents (f.cell.ofText levels) := by
  simp only [record, List.forall_mem_cons]
  exact ⟨fun levels => scalar_documents rfl rfl levels, value_documents, List.forall_mem_nil _⟩

/-- Whatever is read as an envelope is the text of a document. -/
theorem written_of_decode {s : String} {e : Envelope} (h : record.decode s = .ok e) :
    ∃ d : Doc, d.WrittenAs s :=
  written_of_ofText (Record.ofText_documents documents 127) h

theorem decode_eq_ok {d : Doc} {s : String} (hs : d.WrittenAs s) {e : Envelope} :
    record.decode s = .ok e ↔ ∃ ns, d.fields? record.names = some ns ∧
      Row.ofNamed? (textReader 126) ns record.fields = some (e.status, e.data, ()) := by
  rw [Record.decode_eq_ok proper agrees hs]
  refine exists_congr fun ns => ⟨?_, fun ⟨hns, hrow⟩ => ⟨_, hns, hrow, rfl⟩⟩
  rintro ⟨⟨status, data, ⟨⟩⟩, hns, hrow, rfl⟩
  exact ⟨hns, hrow⟩

def text (status : Int64) (data : Value) : String :=
  (Value.obj [("Status", .int status.toInt), ("Data", data)]).text

end Envelope

end Intercept
