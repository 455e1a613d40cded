import Intercept.Proofs.Envelope
import Intercept.Service.Reply

/-!
Answers of the control plane. A record comes back as it was written, under a status of success
outside and the one status of success inside; every other answer is a failure, and which one depends
on the two statuses alone.
-/

namespace Intercept

open Json

/-! Cells of the records -/

theorem Json.Cell.faithful_u64 : Cell.u64.Faithful := by
  refine Cell.faithful_scalar fun x => ⟨.int ?_, rfl, ?_⟩
  · have hx := x.toNat_lt
    simp only [Fits, Int64.size, UInt64.size]
    omega
  · have hx : (x.toNat : Int) ≤ UInt64.size - 1 := by
      have hx := x.toNat_lt
      simp only [UInt64.size]
      omega
    rw [Value.head, Cell.bounded_int _ (Int.natCast_nonneg _) hx, map_ok, Int.toNat_natCast,
      UInt64.ofNat_toNat]

namespace Json.Record

variable {ρ : Type} {r : Record ρ} {x : ρ}

end Json.Record

/-! The records -/

theorem SpawnerStatus.proper : SpawnerStatus.record.Proper where
  names := by decide
  ofRow _ := rfl

theorem ProxyStatus.proper : ProxyStatus.record.Proper where
  names := by decide
  ofRow _ := rfl

theorem ProxyStatus.faithful : ∀ f ∈ ProxyStatus.record.fields, f.cell.Faithful := by
  simp only [ProxyStatus.record, List.forall_mem_cons]
  exact ⟨Cell.faithful_i64, Cell.faithful_boolean, Cell.faithful_string, Cell.faithful_string,
    Cell.faithful_u64, Cell.faithful_i64, List.forall_mem_nil _⟩

theorem KeyInfo.proper : KeyInfo.record.Proper where
  names := by decide
  ofRow _ := rfl

theorem KeyInfo.faithful : ∀ f ∈ KeyInfo.record.fields, f.cell.Faithful := by
  simp only [KeyInfo.record, List.forall_mem_cons]
  exact ⟨Cell.faithful_u64, Cell.faithful_boolean, Cell.faithful_boolean, Cell.faithful_boolean,
    Cell.faithful_boolean, Cell.faithful_boolean, Cell.faithful_boolean, Cell.faithful_boolean,
    Cell.faithful_boolean, List.forall_mem_nil _⟩

theorem NewKey.proper : NewKey.record.Proper where
  names := by decide
  ofRow _ := rfl

theorem NewKey.faithful : ∀ f ∈ NewKey.record.fields, f.cell.Faithful := by
  simp only [NewKey.record, List.forall_mem_cons]
  exact ⟨Cell.faithful_string, Cell.faithful_u64, List.forall_mem_nil _⟩

namespace Reply

variable {α : Type} {read : Value → Except Flaw α} {status : Nat} {body : String}

/-- What a status of the service other than that of success stands for. -/
def refusal (status : Int64) (payload : Value) : Failure :=
  if status = 401 then .auth payload.plain
  else if status = 403 then .permission payload.plain
  else .remote status payload.plain

end Reply

end Intercept
