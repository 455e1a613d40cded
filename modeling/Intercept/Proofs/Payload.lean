import Intercept.Proofs.Base64.Standard
import Intercept.Proofs.Notice.Forward
import Intercept.Proofs.Outbound

/-!
Payloads of records. A record that is right in all its other fields is read if and only if its
payload is null or the standard text of some bytes, and then it holds these bytes. So two payloads
that are strings are of the same bytes only if they are the same string.
-/

namespace Intercept.Json

open Row

/-- What stands for these bytes: their standard text, and null for none at all. -/
def Value.Holds (v : Value) (b : List UInt8) : Prop :=
  v = .null ∧ b = [] ∨ v = .str (String.ofList (Base64.encode b))

theorem Cell.payload_eq_ok {v : Value} {b : List UInt8} : payload.ofTree v = .ok b ↔ v.Holds b := by
  cases v with
  | null => simp [payload, scalar, Value.head, payloadOfHead, Value.Holds, eq_comm]
  | str t =>
    have hread : payload.ofTree (.str t) = .ok b ↔ Base64.decode t = .ok b := by
      simp only [payload, scalar, Value.head, payloadOfHead]
      cases Base64.decode t <;> simp
    rw [hread, Base64.decode_eq_ok]
    simp [Value.Holds]
  | _ => simp [payload, scalar, Value.head, payloadOfHead, Value.Holds]

theorem Value.depth_of_holds {v : Value} {b : List UInt8} (h : v.Holds b) : v.depth = 0 := by
  rcases h with ⟨rfl, -⟩ | rfl <;> rfl

/-- The document is an object or a list only if its tree is. -/
theorem Doc.depth_of_holds {d : Doc} {v : Value} {b : List UInt8} (hd : d.tree? = some v)
    (h : v.Holds b) : d.depth = 0 := by
  cases d with
  | arr ds =>
    obtain ⟨vs, -, rfl⟩ := Doc.tree_arr.mp hd
    cases Value.depth_of_holds h
  | obj ms =>
    obtain ⟨vs, -, rfl⟩ := Doc.tree_obj.mp hd
    cases Value.depth_of_holds h
  | _ => rfl

def payloadField : Field := ⟨"Data", List UInt8, .payload, none⟩

namespace Record

variable {ρ δ : Type} {r : Record ρ} {data : ρ → List UInt8}

/-- All that a record needs is there, except that its payload may be anything: it is `x`. -/
structure Open (read : FieldReader δ) (r : Record ρ) (ns : List (String × δ)) (x : δ) : Prop where
  payload : only "Data" ns = some (some x)
  others : ∀ f ∈ r.fields, f.name ≠ "Data" → ((only f.name ns).bind (f.content read)).isSome

structure Paying (r : Record ρ) (data : ρ → List UInt8) : Prop where
  proper : r.Proper
  agrees : ∀ f ∈ r.fields, f.cell.Agrees
  mem : payloadField ∈ r.fields
  held : ∀ row, ⟨payloadField, data (r.ofRow row)⟩ ∈ Row.contents r.fields row

/-- Whether such a record is read, and as which bytes, is up to its payload. -/
theorem exists_ok_iff (hr : r.Paying data) {read : FieldReader δ}
    {ms? : Option (List (String × δ))} {out : Except Flaw ρ}
    (hout : ∀ m, out = .ok m ↔
      ∃ ns row, ms? = some ns ∧ ofNamed? read ns r.fields = some row ∧ r.ofRow row = m)
    {ns : List (String × δ)} (hns : ms? = some ns) {x : δ} (ho : r.Open read ns x)
    (b : List UInt8) : (∃ m, out = .ok m ∧ data m = b) ↔ read _ .payload x = some b := by
  have hdata {row : Row r.fields} (hrow : ofNamed? read ns r.fields = some row) :
      read _ .payload x = some (data (r.ofRow row)) := by
    have hread := contents_named hrow _ (hr.held row)
    rwa [show only payloadField.name ns = some (some x) from ho.payload] at hread
  constructor
  · rintro ⟨m, hm, rfl⟩
    obtain ⟨ns', row, hns', hrow, rfl⟩ := (hout m).mp hm
    obtain rfl := Option.some.inj (hns.symm.trans hns')
    exact hdata hrow
  · intro hb
    have hall : ∀ f ∈ r.fields, ((only f.name ns).bind (f.content read)).isSome := by
      intro f hf
      by_cases hname : f.name = "Data"
      · obtain rfl : f = payloadField :=
          List.inj_on_of_nodup_map hr.proper.names hf hr.mem hname
        rw [hname, ho.payload, Option.bind_some]
        exact Option.isSome_iff_exists.mpr ⟨b, hb⟩
      · exact ho.others f hf hname
    obtain ⟨row, hrow⟩ := exists_named hall
    refine ⟨_, (hout _).mpr ⟨ns, row, hns, hrow, rfl⟩, ?_⟩
    rw [hdata hrow] at hb
    exact Option.some.inj hb

theorem decode_payload (hr : r.Paying data) {d : Doc} {s : String} (hs : d.WrittenAs s)
    {ns : List (String × Doc)} (hns : d.fields? r.names = some ns) {x : Doc}
    (ho : r.Open (textReader 126) ns x) (b : List UInt8) :
    (∃ m, r.decode s = .ok m ∧ data m = b) ↔ ∃ v, x.tree? = some v ∧ v.Holds b := by
  rw [exists_ok_iff hr (fun _ => decode_eq_ok hr.proper hr.agrees hs) hns ho b, textReader,
    Option.bind_eq_some_iff]
  refine exists_congr fun v => ?_
  rw [toOption_eq_some, Cell.payload_eq_ok, Doc.upTo]
  refine and_congr_left fun hv => ⟨fun h => ?_, fun h => ?_⟩
  · exact (Option.ite_none_right_eq_some.mp h).2
  · rw [Doc.depth_of_holds h hv, if_pos (Nat.zero_le _), h]

theorem ofTree_payload (hr : r.Paying data) {v : Value} {ns : List (String × Value)}
    (hns : v.fields? r.names = some ns) {x : Value} (ho : r.Open treeReader ns x)
    (b : List UInt8) : (∃ m, r.ofTree v = .ok m ∧ data m = b) ↔ x.Holds b := by
  rw [exists_ok_iff hr (fun _ => ofTree_eq_ok hr.proper) hns ho b, treeReader,
    toOption_eq_some, Cell.payload_eq_ok]

/-- A record in text, and one in a document, is read if and only if its payload stands for some
bytes, and as these. -/
def OneSpelling (r : Record ρ) (data : ρ → List UInt8) : Prop :=
  (∀ (d : Doc) (s : String) (ns : List (String × Doc)) (x : Doc), d.WrittenAs s →
    d.fields? r.names = some ns → r.Open (textReader 126) ns x →
    ∀ b, (∃ m, r.decode s = .ok m ∧ data m = b) ↔ ∃ v, x.tree? = some v ∧ v.Holds b) ∧
  ∀ (v : Value) (ns : List (String × Value)) (x : Value),
    v.fields? r.names = some ns → r.Open treeReader ns x →
    ∀ b, (∃ m, r.ofTree v = .ok m ∧ data m = b) ↔ x.Holds b

theorem oneSpelling (hr : r.Paying data) : r.OneSpelling data :=
  ⟨fun _ _ _ _ hs hns ho => decode_payload hr hs hns ho,
    fun _ _ _ hns ho => ofTree_payload hr hns ho⟩

end Record

end Intercept.Json

namespace Intercept

open Json

theorem Command.paying : Command.record.Paying Command.data where
  proper := Command.proper
  agrees := by
    simp only [Command.record, List.forall_mem_cons]
    exact ⟨Cell.agrees_coded Cell.agrees_i64 CommandKind.ofInt (fun _ => rfl) fun _ _ => rfl,
      Cell.agrees_i64, Cell.agrees_scalar rfl rfl, Cell.agrees_scalar rfl rfl,
      List.forall_mem_nil _⟩
  mem := .tail _ (.tail _ (.head _))
  held _ := .tail _ (.tail _ (.head _))

theorem Packet.paying : Packet.record.Paying Packet.data where
  proper := Packet.proper
  agrees := by
    simp only [Packet.record, List.forall_mem_cons]
    exact ⟨Cell.agrees_i64, Cell.agrees_scalar rfl rfl, Cell.agrees_scalar rfl rfl,
      Cell.agrees_i64, Cell.agrees_scalar rfl rfl, Cell.agrees_scalar rfl rfl,
      Cell.agrees_coded (Cell.agrees_scalar rfl rfl) (fun n => .ok ⟨n⟩) (fun _ => rfl)
        fun _ _ => rfl, List.forall_mem_nil _⟩
  mem := .tail _ (.tail _ (.tail _ (.tail _ (.tail _ (.head _)))))
  held _ := .tail _ (.tail _ (.tail _ (.tail _ (.tail _ (.head _)))))

theorem InjectRequest.paying : InjectRequest.record.Paying InjectRequest.data where
  proper := InjectRequest.proper
  agrees := by
    simp only [InjectRequest.record, List.forall_mem_cons]
    exact ⟨Cell.agrees_i64, Cell.agrees_scalar rfl rfl, Cell.agrees_scalar rfl rfl,
      Cell.agrees_scalar rfl rfl, List.forall_mem_nil _⟩
  mem := .tail _ (.head _)
  held _ := .tail _ (.head _)

/-- A payload has one spelling, in a command, a packet and a request to inject. It is null for no
bytes or else the text that is written for the bytes, and nothing else is read. These texts are the
standard ones, and no two of them are of the same bytes. -/
theorem payload_one_spelling :
    Command.record.OneSpelling Command.data ∧ Packet.record.OneSpelling Packet.data ∧
    InjectRequest.record.OneSpelling InjectRequest.data ∧
    (∀ t : String, (∃ b, (Value.str t).Holds b) ↔ Base64.Standard t.toList) ∧
    ∀ (t t' : String) (b : List UInt8),
      (Value.str t).Holds b → (Value.str t').Holds b → t = t' := by
  have hstr (t : String) (b : List UInt8) :
      (Value.str t).Holds b ↔ t = String.ofList (Base64.encode b) := by simp [Value.Holds]
  refine ⟨Record.oneSpelling Command.paying, Record.oneSpelling Packet.paying,
    Record.oneSpelling InjectRequest.paying, fun t => ?_, fun t t' b h h' => ?_⟩
  · rw [Base64.standard_iff]
    refine exists_congr fun b => ?_
    rw [hstr, ← String.toList_inj, String.toList_ofList]
  · rw [hstr] at h h'
    exact h.trans h'.symm

/-! A payload of two bytes -/

theorem one_digit : '1'.isDigit = true ∧ '1' ≠ '0' := by decide

def oneDoc : Doc := .number (Notice.roundNumber '1' 0 one_digit)

def payloadMembers (x : Doc) : List (String × Doc) :=
  [("Type", oneDoc), ("Target", oneDoc), ("Data", x), ("Extra", oneDoc)]

def payloadDoc (t : String) : Doc :=
  .obj ((payloadMembers (.str (Notice.spell t))).map fun m => (Notice.spell m.1, m.2))

def payloadText (t : String) : String :=
  "\x7b\"Type\":1,\"Target\":1,\"Data\":\"" ++ t ++ "\",\"Extra\":1\x7d"

def payloads : List String := ["aGk=", "aGk", "aGk==", "aGk =", "_Gk=", "aGl="]

theorem written_payloadText : ∀ t ∈ payloads, (payloadDoc t).WrittenAs (payloadText t) := by
  have htext : ∀ t ∈ payloads,
      (payloadText t).toList = (payloadDoc t).tokens.flatMap ([] ++ ·) := by decide +kernel
  intro t ht
  rw [Doc.WrittenAs, htext t ht]
  exact spaced_spread (List.forall_mem_nil _) _

theorem fields_payloadDoc (t : String) : (payloadDoc t).fields? Command.record.names =
    some (payloadMembers (.str (Notice.spell t))) := by
  refine mapM_eq_some.mpr (List.forall₂_map_left_iff.mpr (List.forall₂_same.mpr fun m hm => ?_))
  refine Doc.memberOf_eq_some.mpr ⟨?_, rfl⟩
  revert m
  simp only [payloadMembers, List.forall_mem_cons]
  exact ⟨by decide +kernel, by decide +kernel, by decide +kernel, by decide +kernel,
    List.forall_mem_nil _⟩

theorem open_payloadMembers (x : Doc) :
    Command.record.Open (textReader 126) (payloadMembers x) x where
  payload := rfl
  others := by
    simp only [Command.record, List.forall_mem_cons]
    exact ⟨fun _ => rfl, fun _ => rfl, fun h => absurd rfl h, fun _ => rfl, List.forall_mem_nil _⟩

theorem spell_payloads : ∀ t ∈ payloads, Piece.text? (Notice.spell t) = some t := by
  decide +kernel

/-- Two bytes are read from their own text. It is refused without its '=' and with one more, with a
blank, with a letter of another alphabet, and with a bit that belongs to neither byte. -/
theorem payload_one_spelling_two :
    (∃ c, Command.record.decode (payloadText "aGk=") = .ok c ∧ c.data = [104, 105]) ∧
      ∀ t ∈ payloads, t ≠ "aGk=" → ¬∃ c, Command.record.decode (payloadText t) = .ok c := by
  obtain ⟨⟨hcommand, -⟩, -⟩ := payload_one_spelling
  have hread {t : String} (ht : t ∈ payloads) (b : List UInt8) :
      (∃ c, Command.record.decode (payloadText t) = .ok c ∧ c.data = b) ↔
        Base64.decode t = .ok b := by
    rw [hcommand _ _ _ _ (written_payloadText t ht) (fields_payloadDoc t) (open_payloadMembers _),
      Doc.tree?, spell_payloads t ht, Base64.decode_eq_ok]
    simp [Value.Holds]
  refine ⟨(hread (by decide) _).mpr (by decide), fun t ht hne => ?_⟩
  rintro ⟨c, hc⟩
  have hrefused : ∀ t ∈ payloads, t ≠ "aGk=" → (Base64.decode t).toOption = none := by decide
  have hdecode := (hread ht c.data).mp ⟨c, hc, rfl⟩
  rw [← toOption_eq_some, hrefused t ht hne] at hdecode
  cases hdecode

end Intercept
