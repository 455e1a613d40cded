import Intercept.Proofs.Envelope
import Intercept.Proofs.Notice

/-!
Notices are read as they were written. A packet is wrapped twice and always comes back. A failure
comes back if its payload nests no deeper than the text leaves room for; under the status of success
it is not written at all, and none is ever read.
-/

namespace Intercept

theorem Flags.faithful : Flags.cell.Faithful :=
  Json.Cell.faithful_coded Json.Cell.faithful_u32 (fun n => .ok ⟨n⟩) (fun _ => rfl) (fun _ => rfl)
    (fun _ => rfl) fun _ _ => rfl

theorem Packet.proper : Packet.record.Proper where
  names := by decide
  ofRow _ := rfl

theorem Packet.faithful : ∀ f ∈ Packet.record.fields, f.cell.Faithful := by
  simp only [Packet.record, List.forall_mem_cons]
  exact ⟨Json.Cell.faithful_i64, Json.Cell.faithful_string, Json.Cell.faithful_string,
    Json.Cell.faithful_i64, Json.Cell.faithful_string, Json.Cell.faithful_payload, Flags.faithful,
    nofun⟩

namespace Notice

theorem Body.proper : Body.record.Proper where
  names := by decide
  ofRow _ := rfl

/-! The wrapper -/

theorem envelope_contents (e : Envelope) :
    Envelope.record.contents e =
      [⟨⟨"Status", Int64, .i64, none⟩, e.status⟩,
        ⟨⟨"Data", Json.Value, .tree, some .null⟩, e.data⟩] := rfl

theorem body_contents (b : Body) :
    Body.record.contents b =
      [⟨⟨"Type", Int64, .i64, none⟩, b.kind⟩,
        ⟨⟨"Data", Json.Value, .tree, some .null⟩, b.data⟩] := rfl

/-- In the text the document comes before the status. -/
theorem toTree_envelope (e : Envelope) :
    Envelope.record.toTree e = .obj [("Data", e.data), ("Status", .int e.status.toInt)] := by
  have hlt : "Data" < "Status" := by decide
  have hmembers : Envelope.record.members e =
      [("Status", .int e.status.toInt), ("Data", e.data)] := rfl
  rw [Json.Record.toTree, hmembers, Json.Value.object, Json.sortMembers, List.foldl_cons,
    List.foldl_cons, List.foldl_nil, Json.insertMember, Json.insertMember, if_pos hlt]

theorem decode_envelope {e : Envelope} (he : e.data.Exact) :
    Envelope.record.decode (Envelope.record.toTree e).text =
      if e.data.depth ≤ 126 then .ok e else .error .tooDeep := by
  split
  · rename_i hd
    refine Json.Record.decode_toTree Envelope.proper ?_
    simp only [envelope_contents, List.forall_mem_cons]
    refine ⟨Json.Cell.faithful_i64.ofText 126 e.status, fun rest hr => ?_, nofun⟩
    refine (Json.value_chars he 126 rest hr).trans ?_
    rw [Json.Value.upTo, if_pos hd, Json.map_ok]
  · rename_i hd
    have hmem : (⟨⟨"Data", Json.Value, .tree, some .null⟩, e.data⟩ : (f : Json.Field) × f.carrier) ∈
        Envelope.record.contents e := List.mem_cons_of_mem _ (List.mem_singleton_self _)
    rw [toTree_envelope]
    refine Json.Record.decode_refused Envelope.proper hmem (fun rest hr => ?_)
      [("Status", .int e.status.toInt)]
    refine (Json.value_chars he 126 rest hr).trans ?_
    rw [Json.Value.upTo, if_neg hd, Json.map_error]

/-! Packets -/

theorem packet_data (p : Packet) :
    (Body.record.toTree ⟨packetCode, Packet.record.toTree p⟩).Exact ∧
      (Body.record.toTree ⟨packetCode, Packet.record.toTree p⟩).depth ≤ 126 := by
  have hexact : (Packet.record.toTree p).Exact :=
    Json.Record.exact_toTree Packet.proper fun c hc =>
      (Packet.faithful c.1 (Json.field_mem hc)).exact c.2
  have hdepth : (Packet.record.toTree p).depth ≤ 1 :=
    Json.Record.depth_toTree Packet.proper fun c hc =>
      Nat.le_of_eq ((Packet.faithful c.1 (Json.field_mem hc)).depth c.2)
  constructor
  · refine Json.Record.exact_toTree Body.proper ?_
    simp only [body_contents, List.forall_mem_cons]
    exact ⟨Json.Cell.faithful_i64.exact packetCode, hexact, nofun⟩
  · refine Nat.le_trans (Json.Record.depth_toTree Body.proper (d := 1) ?_) (by decide)
    simp only [body_contents, List.forall_mem_cons]
    exact ⟨Nat.zero_le 1, hdepth, nofun⟩

theorem ofEnvelope_packet (p : Packet) :
    ofEnvelope ⟨Envelope.success, Body.record.toTree ⟨packetCode, Packet.record.toTree p⟩⟩ =
      .ok (.packet p) := by
  have hbody : Body.record.ofTree (Body.record.toTree ⟨packetCode, Packet.record.toTree p⟩) =
      .ok ⟨packetCode, Packet.record.toTree p⟩ := by
    refine Json.Record.ofTree_toTree Body.proper ?_
    simp only [body_contents, List.forall_mem_cons]
    exact ⟨Json.Cell.faithful_i64.ofTree packetCode, rfl, nofun⟩
  have hpacket : Packet.record.ofTree (Packet.record.toTree p) = .ok p :=
    Json.Record.ofTree_toTree Packet.proper fun c hc =>
      (Packet.faithful c.1 (Json.field_mem hc)).ofTree c.2
  rw [ofEnvelope, if_neg (not_not_intro rfl)]
  dsimp only
  rw [hbody, Except.mapError, Json.ok_bind, ofBody, if_pos rfl]
  dsimp only
  rw [hpacket]
  rfl

/-! Whole notices -/

theorem encode_packet (p : Packet) :
    (Notice.packet p).encode = .ok (Envelope.record.toTree
      ⟨Envelope.success, Body.record.toTree ⟨packetCode, Packet.record.toTree p⟩⟩).text := rfl

theorem encode_failure (status : Int64) (payload : Json.Value) :
    (Notice.failure status payload).encode =
      if status = Envelope.success then .error (.argument .successAsFailure)
      else .ok (Envelope.record.toTree ⟨status, payload⟩).text := by
  rw [encode, encode?, toTree?]
  by_cases hs : status = Envelope.success
  · rw [if_pos hs, if_pos hs]
    rfl
  · rw [if_neg hs, if_neg hs]
    rfl

theorem decode_packet (p : Packet) :
    ∃ s, (Notice.packet p).encode = .ok s ∧ decode s = .ok (.packet p) := by
  obtain ⟨hexact, hdepth⟩ := packet_data p
  refine ⟨_, encode_packet p, ?_⟩
  rw [decode, decode_envelope hexact, if_pos hdepth, Except.mapError, Json.ok_bind,
    ofEnvelope_packet]

theorem decode_failure {status : Int64} (hs : status ≠ Envelope.success) {payload : Json.Value}
    (hp : payload.Exact) :
    ∃ s, (Notice.failure status payload).encode = .ok s ∧
      decode s =
        if payload.depth ≤ 126 then .ok (.failure status payload)
        else .error (.frame .tooDeep) := by
  refine ⟨_, (encode_failure status payload).trans (if_neg hs), ?_⟩
  rw [decode, decode_envelope (e := ⟨status, payload⟩) hp]
  split
  · rw [Except.mapError, Json.ok_bind, ofEnvelope, if_pos hs]
  · rfl

/-- What was read can be written. -/
theorem encode_decoded {s : String} {n : Notice} (h : decode s = .ok n) :
    ∃ t, n.encode = .ok t := by
  cases n with
  | packet p => exact ⟨_, encode_packet p⟩
  | failure status payload =>
    exact ⟨_, (encode_failure status payload).trans (if_neg (status_decode h))⟩

/-- Every packet is read as it was written. A failure is written unless its status is that of
success, and read as it was written if its payload nests at most 126 deep, or else refused. What is
read is never a failure under the status of success, so all of it can be written again. -/
theorem round_trip :
    (∀ p, ∃ s, (Notice.packet p).encode = .ok s ∧ decode s = .ok (.packet p)) ∧
    (∀ status payload, (Notice.failure status payload).encode =
      .error (.argument .successAsFailure) ↔ status = 200) ∧
    (∀ status payload, status ≠ 200 → payload.Exact →
      ∃ s, (Notice.failure status payload).encode = .ok s ∧
        decode s =
          if payload.depth ≤ 126 then .ok (.failure status payload)
          else .error (.frame .tooDeep)) ∧
    (∀ s status payload, decode s = .ok (.failure status payload) → status ≠ 200) ∧
    (∀ s n, decode s = .ok n → ∃ t, n.encode = .ok t) := by
  refine ⟨decode_packet, fun status payload => ?_, fun status payload hs hp => decode_failure hs hp,
    fun s status payload h => status_decode h, fun s n h => encode_decoded h⟩
  rw [encode_failure]
  change _ ↔ status = Envelope.success
  split
  · rename_i hs
    exact iff_of_true rfl hs
  · rename_i hs
    exact iff_of_false nofun hs

/-- A failure with a nested payload goes there and back, and then there again. -/
theorem round_trip_nested :
    let payload : Json.Value :=
      .arr [.obj [("a", .int (-9223372036854775808)), ("b", .str "\"\n")], .arr []]
    let n : Notice := .failure 404 payload
    payload.Exact ∧ payload.depth = 2 ∧
      ∃ s, n.encode = .ok s ∧ decode s = .ok n ∧ (404 : Int64) ≠ 200 ∧ ∃ t, n.encode = .ok t := by
  intro payload n
  have hinner : (Json.Value.obj
      [("a", .int (-9223372036854775808)), ("b", .str "\"\n")]).Exact := by
    refine .obj (by decide) ?_
    simp only [List.forall_mem_cons]
    exact ⟨.int ⟨by decide, by decide⟩, .str _, nofun⟩
  have hexact : payload.Exact := by
    refine .arr ?_
    simp only [List.forall_mem_cons]
    exact ⟨hinner, .arr nofun, nofun⟩
  obtain ⟨s, hs, hread⟩ := round_trip.2.2.1 404 payload (by decide) hexact
  exact ⟨hexact, rfl, s, hs, hread, round_trip.2.2.2.1 s 404 payload hread,
    round_trip.2.2.2.2 s n hread⟩

end Notice

end Intercept
