import Intercept.Notice
import Intercept.Proofs.Json.Records
import Intercept.Service.Records

/-!
What the client sends is read as it was meant, whatever it holds. So its text says which command or
request it is, and a text that was written by somebody else can be written again without a
difference in what it says.
-/

namespace Intercept

theorem CommandKind.ofInt_code (kind : CommandKind) : ofInt kind.code = .ok kind := by
  cases kind <;> rfl

theorem CommandKind.faithful : CommandKind.cell.Faithful :=
  Json.Cell.faithful_coded Json.Cell.faithful_i64 ofInt ofInt_code (fun _ => rfl) (fun _ => rfl)
    fun _ _ => rfl

theorem Command.proper : Command.record.Proper where
  names := by decide
  ofRow _ := rfl

theorem Command.faithful : ∀ f ∈ Command.record.fields, f.cell.Faithful := by
  simp only [Command.record, List.forall_mem_cons]
  exact ⟨CommandKind.faithful, Json.Cell.faithful_i64, Json.Cell.faithful_payload,
    Json.Cell.faithful_u32, nofun⟩

theorem Command.decode_encode (c : Command) : Command.decode c.encode = .ok c := by
  rw [Command.decode, Command.encode,
    Json.Record.decode_encode Command.proper Command.faithful, Except.mapError]

theorem InjectRequest.proper : InjectRequest.record.Proper where
  names := by decide
  ofRow _ := rfl

theorem InjectRequest.faithful : ∀ f ∈ InjectRequest.record.fields, f.cell.Faithful := by
  simp only [InjectRequest.record, List.forall_mem_cons]
  exact ⟨Json.Cell.faithful_i64, Json.Cell.faithful_payload, Json.Cell.faithful_boolean,
    Json.Cell.faithful_boolean, nofun⟩

theorem InjectRequest.decode_encode (r : InjectRequest) :
    InjectRequest.record.decode (InjectRequest.record.encode r) = .ok r :=
  Json.Record.decode_encode InjectRequest.proper InjectRequest.faithful r

/-- What is read as it was written is never written like something else. -/
theorem injective_of_decode {α ε : Type} {encode : α → String} {decode : String → Except ε α}
    (h : ∀ x, decode (encode x) = .ok x) : Function.Injective encode := by
  intro x y hxy
  have hx := h x
  rw [hxy, h y] at hx
  exact (Except.ok.inj hx).symm

/-- Commands and requests to inject are read as they were written, no two of them are written alike,
and writing again what was read changes nothing in it. -/
theorem outbound_reads_back :
    (∀ c : Command, Command.decode c.encode = .ok c) ∧
    (∀ r : InjectRequest, InjectRequest.record.decode (InjectRequest.record.encode r) = .ok r) ∧
    Function.Injective Command.encode ∧
    Function.Injective InjectRequest.record.encode ∧
    (∀ s c, Command.decode s = .ok c → Command.decode c.encode = .ok c) ∧
    (∀ s r, InjectRequest.record.decode s = .ok r →
      InjectRequest.record.decode (InjectRequest.record.encode r) = .ok r) :=
  ⟨Command.decode_encode, InjectRequest.decode_encode,
    injective_of_decode Command.decode_encode, injective_of_decode InjectRequest.decode_encode,
    fun _ c _ => Command.decode_encode c, fun _ r _ => InjectRequest.decode_encode r⟩

/-- The members of a command may stand in another order, and no bytes may be written as null. -/
theorem outbound_reads_back_shuffled :
    let text :=
      "\x7b\"Extra\":3,\"Type\":1,\"Data\":null,\"Target\":-9223372036854775808\x7d"
    let c : Command := ⟨.inject, -9223372036854775808, [], 3⟩
    Command.decode text = .ok c ∧ c.encode ≠ text ∧ Command.decode c.encode = .ok c := by
  intro text c
  have hread : Command.decode text = .ok c := by
    dsimp only [text, c]
    rfl
  exact ⟨hread, by decide, outbound_reads_back.2.2.2.2.1 text c hread⟩

end Intercept
