import Intercept.Proofs.Notice.RoundTrip

/-!
What the service may change about its messages without being misunderstood. It may put members in
another order, and it may add members that this client does not know, to the wrapper and to the two
objects of a packet. The payload of a failure is kept as it is, so in there only order is free.
-/

namespace Intercept

open Json

namespace Notice

/-! Wrappers: a number and a document -/

def dataField : Field := ⟨"Data", Value, .tree, some .null⟩

def wrapper (key : String) : List Field := [⟨key, Int64, .i64, none⟩, dataField]

section Inside

variable {α : Type} {Q : α → α → Prop}

/-- How the document of a wrapper may change, while all else is kept. -/
def Inside (Q : α → α → Prop) (name : String) (x x' : α) : Prop :=
  if name = "Data" then Q x x' else x' = x

theorem inside_data : Inside Q "Data" = Q := by
  funext x x'
  exact if_pos rfl

theorem inside_other {name : String} (h : name ≠ "Data") : Inside Q name = fun x x' => x' = x := by
  funext x x'
  exact if_neg h

theorem inside_refl (h : ∀ x, Q x x) (name : String) (x : α) : Inside Q name x x := by
  rw [Inside]
  split
  · exact h x
  · rfl

theorem inside_mono {R : α → α → Prop} {name : String} {x x' : α} (h : Q x x' → R x x')
    (hin : Inside Q name x x') : Inside R name x x' := by
  rw [Inside] at hin ⊢
  split at hin
  · rw [if_pos ‹_›]
    exact h hin
  · rw [if_neg ‹_›]
    exact hin

end Inside

section Wrapper

variable {δ : Type} {read : FieldReader δ} {key : String} {ns ns' : List (String × δ)}
  {n : Int64} {v : Value}

theorem wrapper_eq_some :
    Row.ofNamed? read ns (wrapper key) = some (n, v, ()) ↔
      (∃ x, only key ns = some x ∧ Field.content read ⟨key, Int64, .i64, none⟩ x = some n) ∧
        ∃ y, only "Data" ns = some y ∧ dataField.content read y = some v :=
  Row.ofNamed_cons.trans <| and_congr_right fun _ =>
    Row.ofNamed_cons.trans (and_iff_left rfl)

/-- A wrapper that shows the same number, and a document that is as good, is as good a wrapper. -/
theorem wrapper_covers {inner : δ → δ → Prop} {Q : Value → Value → Prop} (hnull : Q .null .null)
    (hinner : ∀ x x' v, inner x x' → read Value .tree x = some v →
      ∃ v', read Value .tree x' = some v' ∧ Q v v')
    (hkey : key ≠ "Data") (hc : Covers [key, "Data"] (Inside inner) ns ns')
    (h : Row.ofNamed? read ns (wrapper key) = some (n, v, ())) :
    ∃ v', Row.ofNamed? read ns' (wrapper key) = some (n, v', ()) ∧ Q v v' := by
  obtain ⟨⟨x, hx, hn⟩, y, hy, hv⟩ := wrapper_eq_some.mp h
  obtain ⟨x', hx', hrel⟩ := hc key List.mem_cons_self x hx
  rw [inside_other hkey] at hrel
  obtain rfl : x' = x := by cases hrel <;> congr
  obtain ⟨y', hy', hrel⟩ := hc "Data" (List.mem_cons_of_mem key List.mem_cons_self) y hy
  rw [inside_data] at hrel
  cases hrel with
  | none =>
    obtain rfl : Value.null = v := Option.some.inj hv
    exact ⟨.null, wrapper_eq_some.mpr ⟨⟨x', hx', hn⟩, none, hy', rfl⟩, hnull⟩
  | some hin =>
    obtain ⟨v', hv', hq⟩ := hinner _ _ v hin hv
    exact ⟨v', wrapper_eq_some.mpr ⟨⟨x', hx', hn⟩, _, hy', hv'⟩, hq⟩

end Wrapper

/-! Variants of messages -/

def Held (levels : Nat) (d : Doc) : Prop := d.depth ≤ levels ∧ ∃ v, d.tree? = some v

/-- The packet with other members in it, all the known ones kept. -/
def PacketVariant : Doc → Doc → Prop :=
  Doc.Widened Packet.record.names (Held 124) fun _ d d' => d' = d

def BodyVariant : Doc → Doc → Prop :=
  Doc.Widened Body.record.names (Held 125) (Inside PacketVariant)

/-- What may become of the document of a message that was understood as this one. -/
def Variant : Notice → Doc → Doc → Prop
  | .packet _ => Doc.Widened Envelope.record.names (fun _ => True) (Inside BodyVariant)
  | .failure _ _ => Doc.Widened Envelope.record.names (fun _ => True) (Inside Doc.Shuffled)

theorem upTo_of_held {levels : Nat} {d : Doc} (h : Held levels d) :
    ∃ v, d.upTo levels = some v := by
  obtain ⟨hd, v, hv⟩ := h
  exact ⟨v, by rw [Doc.upTo, if_pos hd, hv]⟩

def Carries (levels : Nat) (Q : Value → Value → Prop) (d d' : Doc) : Prop :=
  ∀ v, d.upTo levels = some v → ∃ v', d'.upTo levels = some v' ∧ Q v v'

def SamePacket (v v' : Value) : Prop :=
  ∀ p, Packet.record.ofTree v = .ok p → Packet.record.ofTree v' = .ok p

theorem packet_variant {d d' : Doc} (hd : d.Distinct) (h : PacketVariant d d') :
    Carries 125 SamePacket d d' := by
  intro v hv
  have hkept : ∀ (name : String) (x x' : Doc) (w : Value), x' = x → x.Distinct →
      x.upTo 124 = some w → ∃ w', x'.upTo 124 = some w' ∧ w = w' := by
    rintro name x x' w rfl - hw
    exact ⟨w, hw, rfl⟩
  obtain ⟨v', hv', hshown⟩ := Doc.upTo_widened (r := fun _ => Eq) (fun _ _ => rfl) hkept
    (fun x hx => upTo_of_held hx) hd h hv
  exact ⟨v', hv', fun p => Record.ofTree_covers Packet.proper hshown⟩

theorem ofBody_eq_ok {b : Body} {m : Notice} :
    ofBody b = .ok m ↔
      b.kind = packetCode ∧ ∃ p, Packet.record.ofTree b.data = .ok p ∧ m = .packet p := by
  unfold ofBody
  split
  · rename_i hkind
    cases Packet.record.ofTree b.data with
    | error e => exact iff_of_false (by simp [Except.map, Except.mapError]) (by simp)
    | ok p => simp [Except.map, Except.mapError, hkind, eq_comm]
  · rename_i hkind
    refine iff_of_false ?_ fun h => hkind h.1
    split <;> simp

def ofData (v : Value) : Except Violation Notice := do
  ofBody (← (Body.record.ofTree v).mapError .body)

theorem ofData_eq_ok {v : Value} {m : Notice} :
    ofData v = .ok m ↔ ∃ ns data, v.fields? Body.record.names = some ns ∧
      Row.ofNamed? treeReader ns (wrapper "Type") = some (packetCode, data, ()) ∧
      ∃ p, Packet.record.ofTree data = .ok p ∧ m = .packet p := by
  constructor
  · intro h
    cases hb : Body.record.ofTree v with
    | error e =>
      rw [ofData, hb] at h
      cases h
    | ok b =>
      rw [ofData, hb] at h
      obtain ⟨ns, ⟨kind, data, ⟨⟩⟩, hns, hrow, rfl⟩ := (Record.ofTree_eq_ok Body.proper).mp hb
      obtain ⟨hkind, p, hp, hm⟩ := ofBody_eq_ok.mp h
      obtain rfl : kind = packetCode := hkind
      exact ⟨ns, data, hns, hrow, p, hp, hm⟩
  · rintro ⟨ns, data, hns, hrow, p, hp, hm⟩
    have hb : Body.record.ofTree v = .ok ⟨packetCode, data⟩ :=
      (Record.ofTree_eq_ok Body.proper).mpr ⟨ns, _, hns, hrow, rfl⟩
    rw [ofData, hb]
    exact (ofBody_eq_ok (b := ⟨packetCode, data⟩)).mpr ⟨rfl, p, hp, hm⟩

def SameData (v v' : Value) : Prop := ∀ m, ofData v = .ok m → ofData v' = .ok m

theorem inside_carries {levels : Nat} {inner : Doc → Doc → Prop} {Q : Value → Value → Prop}
    (h : ∀ x x', x.Distinct → inner x x' → Carries levels Q x x') (name : String) (x x' : Doc)
    (w : Value) (hin : Inside inner name x x') (hx : x.Distinct) (hw : x.upTo levels = some w) :
    ∃ w', x'.upTo levels = some w' ∧ Inside Q name w w' := by
  by_cases hname : name = "Data"
  · subst hname
    rw [inside_data] at hin ⊢
    exact h x x' hx hin w hw
  · rw [inside_other hname] at hin ⊢
    exact ⟨w, hin ▸ hw, rfl⟩

theorem body_variant {d d' : Doc} (hd : d.Distinct) (h : BodyVariant d d') :
    Carries 126 SameData d d' := by
  intro v hv
  obtain ⟨v', hv', hshown⟩ := Doc.upTo_widened (r := Inside SamePacket)
    (inside_refl fun _ _ => id) (inside_carries fun x x' => packet_variant)
    (fun x hx => upTo_of_held hx) hd h hv
  refine ⟨v', hv', fun m hm => ?_⟩
  obtain ⟨ns, data, hns, hrow, p, hp, rfl⟩ := ofData_eq_ok.mp hm
  obtain ⟨ns', hns', hcovers⟩ := hshown ns hns
  have hkept : ∀ x x' w, SamePacket x x' → treeReader Value .tree x = some w →
      ∃ w', treeReader Value .tree x' = some w' ∧ SamePacket w w' := fun x x' w hsame hw =>
    ⟨x', rfl, Option.some.inj hw ▸ hsame⟩
  obtain ⟨data', hrow', hsame⟩ := wrapper_covers (fun _ => id) hkept (by decide) hcovers hrow
  exact ofData_eq_ok.mpr ⟨ns', data', hns', hrow', p, hsame p hp, rfl⟩

/-- The envelope is read off its text, whatever is around the status and the document. -/
theorem decode_eq_ok {d : Doc} {s : String} (hs : d.WrittenAs s) {m : Notice} :
    decode s = .ok m ↔ ∃ ns status v, d.fields? Envelope.record.names = some ns ∧
      Row.ofNamed? (textReader 126) ns (wrapper "Status") = some (status, v, ()) ∧
      ofEnvelope ⟨status, v⟩ = .ok m := by
  constructor
  · intro h
    cases he : Envelope.record.decode s with
    | error f =>
      rw [decode, he] at h
      cases h
    | ok e =>
      rw [decode, he] at h
      obtain ⟨ns, hns, hrow⟩ := (Envelope.decode_eq_ok hs).mp he
      exact ⟨ns, e.status, e.data, hns, hrow, h⟩
  · rintro ⟨ns, status, v, hns, hrow, h⟩
    have he : Envelope.record.decode s = .ok ⟨status, v⟩ :=
      (Envelope.decode_eq_ok hs).mpr ⟨ns, hns, hrow⟩
    rw [decode, he]
    exact h

theorem envelope_variant {inner : Doc → Doc → Prop} {Q : Value → Value → Prop}
    (hrefl : ∀ v, Q v v) (hinner : ∀ x x', x.Distinct → inner x x' → Carries 126 Q x x')
    {d d' : Doc} (hd : d.Distinct)
    (h : Doc.Widened Envelope.record.names (fun _ => True) (Inside inner) d d') {s s' : String}
    (hs : d.WrittenAs s) (hs' : d'.WrittenAs s') {m : Notice} (hm : decode s = .ok m) :
    ∃ status v v', Q v v' ∧ ofEnvelope ⟨status, v⟩ = .ok m ∧
      ∀ m', ofEnvelope ⟨status, v'⟩ = .ok m' → decode s' = .ok m' := by
  obtain ⟨ns, status, v, hns, hrow, hm'⟩ := (decode_eq_ok hs).mp hm
  obtain ⟨ns', hns', hcovers⟩ := Doc.fields_widened (r := Inside (Carries 126 Q))
    (inside_refl fun x v hv => ⟨v, hv, hrefl v⟩)
    (fun name x x' hin hx => inside_mono (hinner x x' hx) hin) hd h hns
  have hread : ∀ x x' w, Carries 126 Q x x' → textReader 126 Value .tree x = some w →
      ∃ w', textReader 126 Value .tree x' = some w' ∧ Q w w' := by
    intro x x' w hcarries hw
    rw [textReader_tree] at hw
    obtain ⟨w', hw', hq⟩ := hcarries w hw
    exact ⟨w', (textReader_tree 126 x').trans hw', hq⟩
  obtain ⟨v', hrow', hq⟩ := wrapper_covers (hrefl .null) hread (by decide) hcovers hrow
  exact ⟨status, v, v', hq, hm', fun m' h' =>
    (decode_eq_ok hs').mpr ⟨ns', status, v', hns', hrow', h'⟩⟩

theorem ofEnvelope_same {status : Int64} {v v' : Value} (h : SameData v v') {p : Packet}
    (hp : ofEnvelope ⟨status, v⟩ = .ok (.packet p)) :
    ofEnvelope ⟨status, v'⟩ = .ok (.packet p) := by
  rw [ofEnvelope] at hp ⊢
  split at hp
  · cases hp
  · rename_i hs
    rw [if_neg hs]
    exact h _ hp

/-- Texts that differ in what does not count are read as the same message. -/
theorem decode_variant {d d' : Doc} {s s' : String} {m : Notice} (hd : d.Distinct)
    (hs : d.WrittenAs s) (hs' : d'.WrittenAs s') (h : Variant m d d') (hm : decode s = .ok m) :
    decode s' = .ok m := by
  cases m with
  | packet p =>
    obtain ⟨status, v, v', hsame, hv, hread⟩ := envelope_variant (Q := SameData)
      (fun _ _ => id) (fun x x' => body_variant) hd h hs hs' hm
    exact hread _ (ofEnvelope_same hsame hv)
  | failure status payload =>
    have hkept : ∀ x x' : Doc, x.Distinct → Doc.Shuffled x x' → Carries 126 Eq x x' :=
      fun x x' hx hin v hv => ⟨v, (Doc.same_shuffled hin hx).2 126 v hv, rfl⟩
    obtain ⟨status', v, v', rfl, hv, hread⟩ :=
      envelope_variant (fun _ => rfl) hkept hd h hs hs' hm
    exact hread _ hv

/-- Whatever is understood is the text of a document. -/
theorem written_of_decode {s : String} {m : Notice} (h : decode s = .ok m) :
    ∃ d : Doc, d.WrittenAs s := by
  cases he : Envelope.record.decode s with
  | error f =>
    rw [decode, he] at h
    cases h
  | ok e => exact Envelope.written_of_decode he

/-- A message that was understood is that of a document. If no name comes twice in one of its
objects, it is understood in the same way with other blanks between its tokens, with its members in
another order, and with new members in the envelope, and if it is a packet, also in the body and in
the packet. The value of a new member of the envelope may be any document; elsewhere it has to leave
the whole within the depth that is admitted, with numbers in range and strings of whole
characters. -/
theorem forward_compatible :
    (∀ s m, decode s = .ok m → ∃ d : Doc, d.WrittenAs s) ∧
    ∀ (d d' : Doc) (s s' : String) (m : Notice), d.WrittenAs s → d'.WrittenAs s' → d.Distinct →
      Variant m d d' → decode s = .ok m → decode s' = .ok m :=
  ⟨fun _ _ => written_of_decode, fun _ _ _ _ _ hs hs' hd h => decode_variant hd hs hs' h⟩

/-! A packet with company -/

def spell (s : String) : List Piece :=
  s.toList.filterMap fun c =>
    if h : c ≠ '"' ∧ c ≠ '\\' ∧ ¬ c.toNat < 32 then some (.plain c h) else none

def roundNumber (c : Char) (zeros : Nat) (h : c.isDigit = true ∧ c ≠ '0') : Number where
  negative := false
  whole := c :: List.replicate zeros '0'
  fraction := []
  exponent := []
  isWhole := .digits h.1 h.2 fun _ hd => (List.eq_of_mem_replicate hd) ▸ rfl
  isFraction := .none
  isExponent := .none

def loneHalf : Piece := .unit ⟨'d', 13, rfl⟩ ⟨'8', 8, rfl⟩ ⟨'0', 0, rfl⟩ ⟨'0', 0, rfl⟩

def envelopeFields (data : Doc) : List (List Piece × Doc) :=
  [(spell "Status", .number (roundNumber '2' 2 (by decide))), (spell "Data", data)]

def bodyFields (data : Doc) : List (List Piece × Doc) :=
  [(spell "Type", .number (roundNumber '1' 0 (by decide))), (spell "Data", data)]

def packetFields : List (List Piece × Doc) := [
  (spell "PktNum", .number (roundNumber '7' 0 (by decide))),
  (spell "Network", .str (spell "tcp")),
  (spell "Source", .str (spell "a:1")),
  (spell "ProxyId", .number (roundNumber '1' 0 (by decide))),
  (spell "Dest", .str (spell "b:2")),
  (spell "Data", .str (spell "aGk=")),
  (spell "Flags", .number (roundNumber '1' 0 (by decide)))]

/-- The document of a packet, with a new member in each of the two objects that are inside. -/
def packetDoc (inBody inPacket : List (List Piece × Doc)) : Doc :=
  .obj (envelopeFields (.obj (inBody ++ bodyFields (.obj (inPacket ++ packetFields)))))

def sample : Packet := ⟨7, "tcp", "a:1", 1, "b:2", [104, 105], ⟨1⟩⟩

def sampleText : String :=
  "\x7b\"Status\":200,\"Data\":\x7b\"Type\":1,\"Data\":\x7b\"PktNum\":7,\"Network\":\"tcp\"," ++
  "\"Source\":\"a:1\",\"ProxyId\":1,\"Dest\":\"b:2\",\"Data\":\"aGk=\",\"Flags\":1\x7d\x7d\x7d"

set_option maxRecDepth 20000 in
theorem decode_sample : decode sampleText = .ok (.packet sample) := by
  rfl

theorem written_sample : (packetDoc [] []).WrittenAs sampleText := by
  have htext : sampleText.toList = (packetDoc [] []).tokens.flatMap ([] ++ ·) := by decide +kernel
  rw [Doc.WrittenAs, htext]
  exact spaced_spread (List.forall_mem_nil _) _

theorem distinct_sample : (packetDoc [] []).Distinct := by
  have hnumber (n : Number) : (Doc.number n).Distinct := .number n
  have hpacket : (Doc.obj packetFields).Distinct := by
    refine .obj (by decide +kernel) ?_
    simp only [packetFields, List.forall_mem_cons]
    exact ⟨.number _, .str _, .str _, .number _, .str _, .str _, .number _, List.forall_mem_nil _⟩
  have hbody : (Doc.obj (bodyFields (.obj packetFields))).Distinct := by
    refine .obj (by decide +kernel) ?_
    simp only [bodyFields, List.forall_mem_cons]
    exact ⟨.number _, hpacket, List.forall_mem_nil _⟩
  refine .obj (by decide +kernel) ?_
  simp only [envelopeFields, List.forall_mem_cons]
  exact ⟨.number _, hbody, List.forall_mem_nil _⟩

def companyPacket : Doc := .obj ((spell "Hop", .null) :: packetFields).reverse

def companyBody : Doc := .obj ((spell "Note", .arr []) :: bodyFields companyPacket).reverse

/-- All three objects in the opposite order, each with a new member; the one of the envelope is
half a character. -/
def companyDoc : Doc :=
  .obj ((spell "Half", .str [loneHalf]) :: envelopeFields companyBody).reverse

theorem widened_reversed {names : List String} {fits : Doc → Prop}
    {inner : String → Doc → Doc → Prop} {ms changed : List (List Piece × Doc)}
    {m : List Piece × Doc}
    (hchanged : List.Forall₂
      (fun m m' => m'.1 = m.1 ∧ ∀ name, Piece.text? m.1 = some name → inner name m.2 m'.2)
      ms changed)
    (hm : ∃ name, Piece.text? m.1 = some name ∧ name ∉ names ∧ fits m.2) :
    Doc.Widened names fits inner (.obj ms) (.obj (m :: changed).reverse) :=
  .obj hchanged (List.forall_mem_singleton.mpr hm) (List.reverse_perm (m :: changed))

/-- Of a wrapper only the document changes. -/
theorem wrapper_changed {inner : Doc → Doc → Prop} {k k' : List Piece} {n x x' : Doc}
    (hk : ∀ name, Piece.text? k = some name → name ≠ "Data")
    (hk' : ∀ name, Piece.text? k' = some name → name = "Data") (h : inner x x') :
    List.Forall₂
      (fun m m' => m'.1 = m.1 ∧ ∀ name, Piece.text? m.1 = some name → Inside inner name m.2 m'.2)
      [(k, n), (k', x)] [(k, n), (k', x')] := by
  refine .cons ⟨rfl, fun name hname => ?_⟩ (.cons ⟨rfl, fun name hname => ?_⟩ .nil)
  · rw [inside_other (hk name hname)]
  · rw [hk' name hname, inside_data]
    exact h

theorem text_spell {s name t : String} (hs : Piece.text? (spell s) = some t)
    (h : Piece.text? (spell s) = some name) : name = t := Option.some.inj (h.symm.trans hs)

theorem variant_company : Variant (.packet sample) (packetDoc [] []) companyDoc := by
  have htype : Piece.text? (spell "Type") = some "Type" := by decide +kernel
  have hstatus : Piece.text? (spell "Status") = some "Status" := by decide +kernel
  have hdata : Piece.text? (spell "Data") = some "Data" := by decide +kernel
  have hpacket : PacketVariant (.obj packetFields) companyPacket :=
    widened_reversed (List.forall₂_same.mpr fun m _ => ⟨rfl, fun _ _ => rfl⟩)
      ⟨"Hop", by decide +kernel, by decide, Nat.zero_le _, .null, rfl⟩
  have hbody : BodyVariant (.obj (bodyFields (.obj packetFields))) companyBody :=
    widened_reversed
      (wrapper_changed (fun name h => text_spell htype h ▸ by decide) (fun name => text_spell hdata)
        hpacket)
      ⟨"Note", by decide +kernel, by decide, by decide, .arr [], rfl⟩
  exact widened_reversed
    (wrapper_changed (fun name h => text_spell hstatus h ▸ by decide) (fun name => text_spell hdata)
      hbody)
    ⟨"Half", by decide +kernel, by decide, trivial⟩

/-- With a blank in front of each token the packet is the same as before. -/
theorem forward_compatible_company :
    decode (String.ofList (companyDoc.tokens.flatMap ([' '] ++ ·))) = .ok (.packet sample) := by
  have hspread : companyDoc.WrittenAs (String.ofList (companyDoc.tokens.flatMap ([' '] ++ ·))) := by
    rw [Doc.WrittenAs, String.toList_ofList]
    exact spaced_spread (List.forall_mem_singleton.mpr rfl) _
  exact forward_compatible.2 (packetDoc [] []) companyDoc sampleText _ (.packet sample)
    written_sample hspread distinct_sample variant_company decode_sample

def halfText : String :=
  "\x7b\"Status\":200,\"Data\":\x7b\"x\":\"\\ud800\",\"Type\":1,\"Data\":\x7b\"PktNum\":7," ++
  "\"Network\":\"tcp\",\"Source\":\"a:1\",\"ProxyId\":1,\"Dest\":\"b:2\",\"Data\":\"aGk=\"," ++
  "\"Flags\":1\x7d\x7d\x7d"

set_option maxRecDepth 20000 in
/-- A new member of the body must not hold half a character, though nothing asks for it. -/
theorem half_in_body :
    (packetDoc [] []).WrittenAs sampleText ∧ (packetDoc [] []).Distinct ∧
      decode sampleText = .ok (.packet sample) ∧
      (packetDoc [(spell "x", .str [loneHalf])] []).WrittenAs halfText ∧
      decode halfText = .error (.frame .endOfHexEscape) := by
  refine ⟨written_sample, distinct_sample, decode_sample, ?_, by rfl⟩
  have htext : halfText.toList =
      (packetDoc [(spell "x", .str [loneHalf])] []).tokens.flatMap ([] ++ ·) := by decide +kernel
  rw [Doc.WrittenAs, htext]
  exact spaced_spread (List.forall_mem_nil _) _

end Notice

end Intercept
