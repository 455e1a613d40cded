import Intercept.Json.Record
import Intercept.Proofs.Base64
import Intercept.Proofs.Json.Documents
import Mathlib.Data.List.Nodup

/-!
Records are read as they were written, in whatever order their members stand. While a record is
read, the draft always holds the fields whose names have come, and nothing of the others.
-/

namespace Intercept.Json

/-! Cells -/

/-- A cell that writes scalars and reads what it wrote, from a document and from text. -/
structure Cell.Faithful {α : Type} (cell : Cell α) : Prop where
  exact : ∀ x, (cell.toTree x).Exact
  depth : ∀ x, (cell.toTree x).depth = 0
  ofTree : ∀ x, cell.ofTree (cell.toTree x) = .ok x
  ofText : ∀ levels x rest, Ends rest →
    cell.ofText levels ((cell.toTree x).chars ++ rest) = .ok (x, rest)

theorem head_chars {v : Value} (hv : v.Exact) (hd : v.depth = 0) {rest : List Char}
    (hr : Ends rest) : head (v.chars ++ rest) = .ok (v.head, rest) := by
  cases hv with
  | null => rfl
  | bool b => cases b <;> rfl
  | int h => exact head_int h hr
  | str s => exact head_quote s rest
  | arr h => cases hd
  | obj h h' => cases hd

namespace Cell

/-- What a scalar cell writes has to be a scalar that it knows again. -/
structure Known {α : Type} (ofHead : Head → Except Flaw α) (x : α) (v : Value) : Prop where
  exact : v.Exact
  depth : v.depth = 0
  ofHead : ofHead v.head = .ok x

theorem faithful_scalar {α : Type} {ofHead : Head → Except Flaw α} {toTree : α → Value}
    (h : ∀ x, Known ofHead x (toTree x)) : (scalar ofHead toTree).Faithful where
  exact x := (h x).exact
  depth x := (h x).depth
  ofTree x := (h x).ofHead
  ofText levels x rest hr := by
    have hhead : head ((toTree x).chars ++ rest) = .ok ((toTree x).head, rest) :=
      head_chars (h x).exact (h x).depth hr
    change (head ((toTree x).chars ++ rest) >>= _) = _
    rw [hhead, ok_bind]
    dsimp only
    rw [(h x).ofHead, ok_bind]

/-- A cell for what another cell can hold a code of. -/
theorem faithful_coded {α β : Type} {inner : Cell α} (h : inner.Faithful) {cell : Cell β}
    {code : β → α} (ofCode : α → Except Flaw β) (hcode : ∀ x, ofCode (code x) = .ok x)
    (htree : ∀ x, cell.toTree x = inner.toTree (code x))
    (hofTree : ∀ v, cell.ofTree v = inner.ofTree v >>= ofCode)
    (hofText : ∀ levels cs, cell.ofText levels cs =
      inner.ofText levels cs >>= fun r => (ofCode r.1).map (·, r.2)) : cell.Faithful where
  exact x := by
    rw [htree]
    exact h.exact (code x)
  depth x := by rw [htree, h.depth]
  ofTree x := by rw [hofTree, htree, h.ofTree, ok_bind, hcode]
  ofText levels x rest hr := by
    rw [hofText, htree, h.ofText levels (code x) rest hr, ok_bind]
    dsimp only
    rw [hcode, map_ok]

theorem bounded_int {lo hi n : Int} (wanted : Wanted) (hlo : lo ≤ n) (hhi : n ≤ hi) :
    bounded lo hi wanted (.int n) = .ok n := if_pos ⟨hlo, hhi⟩

theorem faithful_i64 : i64.Faithful := by
  refine faithful_scalar fun x => ⟨.int ?_, rfl, ?_⟩
  · have hlo := x.le_toInt
    have hhi := x.toInt_lt
    simp only [Fits, Int64.size, UInt64.size]
    omega
  · rw [Value.head, bounded_int _ x.minValue_le_toInt (Int64.le_iff_toInt_le.mp x.le_maxValue),
      map_ok, Int64.ofInt_toInt]

theorem faithful_u32 : u32.Faithful := by
  refine faithful_scalar fun x => ⟨.int ?_, rfl, ?_⟩
  · have hx := x.toNat_lt
    simp only [Fits, Int64.size, UInt64.size]
    omega
  · have hx : (x.toNat : Int) ≤ UInt32.size - 1 := by
      have hx := x.toNat_lt
      simp only [UInt32.size]
      omega
    rw [Value.head, bounded_int _ (Int.natCast_nonneg _) hx, map_ok, Int.toNat_natCast,
      UInt32.ofNat_toNat]

theorem faithful_boolean : boolean.Faithful := faithful_scalar fun b => ⟨.bool b, rfl, rfl⟩

theorem faithful_string : string.Faithful := faithful_scalar fun s => ⟨.str s, rfl, rfl⟩

theorem faithful_payload : payload.Faithful := by
  refine faithful_scalar fun bytes => ⟨.str _, rfl, ?_⟩
  rw [Value.head, payloadOfHead, Base64.decode_encode]

end Cell

/-! Rows and drafts -/

def Row.contents : (fs : List Field) → Row fs → List ((f : Field) × f.carrier)
  | [], _ => []
  | f :: fs, (x, row) => ⟨f, x⟩ :: contents fs row

def Field.written (c : (f : Field) × f.carrier) : String × Value :=
  (c.1.name, c.1.cell.toTree c.2)

theorem toMembers_eq : ∀ (fs : List Field) (row : Row fs),
    Row.toMembers fs row = (Row.contents fs row).map Field.written
  | [], _ => rfl
  | _ :: fs, (_, row) => congrArg (_ :: ·) (toMembers_eq fs row)

theorem fields_contents : ∀ (fs : List Field) (row : Row fs),
    (Row.contents fs row).map Sigma.fst = fs
  | [], _ => rfl
  | _ :: fs, (_, row) => congrArg (_ :: ·) (fields_contents fs row)

theorem field_mem {fs : List Field} {row : Row fs} {c : (f : Field) × f.carrier}
    (hc : c ∈ Row.contents fs row) : c.1 ∈ fs := by
  have h := List.mem_map_of_mem (f := Sigma.fst) hc
  rwa [fields_contents] at h

/-- What has come of a row, if only the fields of the names `came` have. -/
def Draft.part (came : List String) : (fs : List Field) → Row fs → Draft fs
  | [], _ => ()
  | f :: fs, (x, row) => (if f.name ∈ came then some x else none, part came fs row)

namespace Draft

variable {came : List String}

theorem part_nil : ∀ (fs : List Field) (row : Row fs), part [] fs row = empty fs
  | [], _ => rfl
  | f :: fs, (x, row) => by
    rw [part, if_neg List.not_mem_nil, part_nil fs row, empty]

theorem part_other {name : String} : ∀ {fs : List Field} (row : Row fs),
    name ∉ fs.map Field.name → part (name :: came) fs row = part came fs row
  | [], _, _ => rfl
  | f :: fs, (x, row), h => by
    obtain ⟨hf, hfs⟩ := not_or.mp fun hor => h (List.mem_cons.mpr hor)
    have hiff : f.name ∈ name :: came ↔ f.name ∈ came := by
      rw [List.mem_cons, or_iff_right (Ne.symm hf)]
    rw [part, part, part_other row hfs, if_congr hiff rfl rfl]

theorem finish_part : ∀ {fs : List Field} (row : Row fs), (∀ f ∈ fs, f.name ∈ came) →
    finish fs (part came fs row) = .ok row
  | [], _, _ => rfl
  | f :: fs, (x, row), h => by
    rw [part, if_pos (h f List.mem_cons_self), finish, Option.some_or]
    dsimp only
    rw [finish_part row fun g hg => h g (List.mem_cons_of_mem f hg), ok_bind]

/-- A field that comes for the first time is read into its place. -/
theorem fill_part {τ : Type} {read : {α : Type} → Cell α → Except Flaw (α × τ)}
    {skip : Except Flaw τ} {c : (f : Field) × f.carrier} (out : Except Flaw τ)
    (hnew : c.1.name ∉ came) (hread : read c.1.cell = out.map (c.2, ·)) :
    ∀ {fs : List Field} {row : Row fs}, (fs.map Field.name).Nodup → c ∈ Row.contents fs row →
      fill c.1.name read skip fs (part came fs row) =
        out.map (part (c.1.name :: came) fs row, ·)
  | [], _, _, hc => nomatch hc
  | f :: fs, (x, row), hnames, hc => by
    obtain ⟨hf, hfs⟩ := List.nodup_cons.mp hnames
    rcases List.mem_cons.mp hc with rfl | hc
    · rw [part, part, fill, if_pos rfl, if_neg hnew, part_other row hf, hread,
        if_pos List.mem_cons_self]
      cases out <;> rfl
    · have hmem : c.1.name ∈ fs.map Field.name := List.mem_map_of_mem (field_mem hc)
      have hne : c.1.name ≠ f.name := fun h => hf (h ▸ hmem)
      have hiff : f.name ∈ c.1.name :: came ↔ f.name ∈ came := by
        rw [List.mem_cons, or_iff_right hne.symm]
      rw [part, part, fill, if_neg hne, fill_part out hnew hread hfs hc, if_congr hiff rfl rfl]
      cases out <;> rfl

end Draft

/-! Whole records -/

/-- A record whose fields have names of their own and make up what they were taken from. -/
structure Record.Proper {ρ : Type} (r : Record ρ) : Prop where
  names : (r.fields.map Field.name).Nodup
  ofRow : ∀ x, r.ofRow (r.toRow x) = x

namespace Record

variable {ρ : Type} {r : Record ρ} {x : ρ}

def contents (r : Record ρ) (x : ρ) : List ((f : Field) × f.carrier) :=
  Row.contents r.fields (r.toRow x)

def part (r : Record ρ) (came : List String) (x : ρ) : Draft r.fields :=
  Draft.part came r.fields (r.toRow x)

theorem members_eq (r : Record ρ) (x : ρ) : r.members x = (r.contents x).map Field.written :=
  toMembers_eq r.fields (r.toRow x)

theorem names_members (r : Record ρ) (x : ρ) :
    (r.members x).map Prod.fst = r.fields.map Field.name := by
  have hnames : (r.contents x).map (Field.name ∘ Sigma.fst) = r.fields.map Field.name := by
    rw [← List.map_map, contents, fields_contents]
  rw [members_eq, List.map_map]
  exact hnames

theorem mem_members {m : String × Value} :
    m ∈ r.members x ↔ ∃ c ∈ r.contents x, Field.written c = m := by
  rw [members_eq, List.mem_map]

/-- All of `x` has come once all its members have. -/
theorem finish_part {ms : List (String × Value)} (hms : ms.Perm (r.members x)) :
    Draft.finish r.fields (r.part (ms.map Prod.fst).reverse x) = .ok (r.toRow x) := by
  refine Draft.finish_part _ fun f hf => ?_
  rw [List.mem_reverse, (hms.map Prod.fst).mem_iff, names_members]
  exact List.mem_map_of_mem hf

theorem nodup_seen (hr : r.Proper) {ms : List (String × Value)}
    (hms : ms.Perm (r.members x)) : ((ms.map Prod.fst).reverse ++ []).Nodup := by
  rw [List.append_nil, List.nodup_reverse, (hms.map Prod.fst).nodup_iff, names_members]
  exact hr.names

/-- Members that come one after another in a document, each for the first time. -/
theorem draftOfMembers_part (hr : r.Proper)
    (hc : ∀ c ∈ r.contents x, c.1.cell.ofTree (c.1.cell.toTree c.2) = .ok c.2)
    {ms : List (String × Value)} (hms : ∀ m ∈ ms, m ∈ r.members x) {came : List String}
    (hnew : ((ms.map Prod.fst).reverse ++ came).Nodup) :
    r.draftOfMembers (r.part came x) ms = .ok (r.part ((ms.map Prod.fst).reverse ++ came) x) := by
  induction ms generalizing came with
  | nil => rfl
  | cons m ms ih =>
    rw [List.map_cons, List.reverse_cons, List.append_assoc, List.singleton_append] at hnew ⊢
    obtain ⟨c, hmem, rfl⟩ := mem_members.mp (hms m List.mem_cons_self)
    have hcame : c.1.name ∉ came := (List.nodup_cons.mp (List.nodup_append.mp hnew).2.1).1
    have hrest := ih (fun m h => hms m (List.mem_cons_of_mem _ h)) hnew
    rw [Field.written, draftOfMembers, part,
      Draft.fill_part (.ok ()) hcame (by rw [hc c hmem]; rfl) hr.names hmem]
    exact hrest

/-- A record is read from its members in any order. -/
theorem ofTree_obj (hr : r.Proper)
    (hc : ∀ c ∈ r.contents x, c.1.cell.ofTree (c.1.cell.toTree c.2) = .ok c.2)
    {ms : List (String × Value)} (hms : ms.Perm (r.members x)) : r.ofTree (.obj ms) = .ok x := by
  have hdraft := draftOfMembers_part hr hc (fun m h => hms.mem_iff.mp h)
    (nodup_seen hr hms)
  rw [List.append_nil, part, Draft.part_nil] at hdraft
  rw [ofTree, hdraft, ok_bind, finish_part hms, ok_bind, hr.ofRow]

/-- The text of one field does what the document of that field does. -/
theorem fill_text (out : Except Flaw (List Char)) (hr : r.Proper) {levels : Nat}
    {c : (f : Field) × f.carrier} (hmem : c ∈ r.contents x) {came : List String}
    (hnew : c.1.name ∉ came) {cs : List Char}
    (hread : c.1.cell.ofText levels cs = out.map (c.2, ·)) {skip : Except Flaw (List Char)} :
    Draft.fill c.1.name (fun cell => do cell.ofText levels (← colon (':' :: cs))) skip
        r.fields (r.part came x) =
      out.map (r.part (c.1.name :: came) x, ·) :=
  Draft.fill_part out hnew hread hr.names hmem

/-- Members that come one after another in text, each for the first time. -/
theorem draftOfText_part (hr : r.Proper) {levels : Nat}
    (hc : ∀ c ∈ r.contents x, ∀ rest, Ends rest →
      c.1.cell.ofText levels ((c.1.cell.toTree c.2).chars ++ rest) = .ok (c.2, rest))
    {ms : List (String × Value)} (hms : ∀ m ∈ ms, m ∈ r.members x) {came : List String}
    (hnew : ((ms.map Prod.fst).reverse ++ came).Nodup) {fuel : Nat} (hf : ms.length < fuel)
    (first : Bool) (rest : List Char) :
    r.draftOfText levels fuel first (r.part came x)
        (listed '\x7d' first (ms.map memberText) ++ rest) =
      .ok (r.part ((ms.map Prod.fst).reverse ++ came) x, '\x7d' :: rest) := by
  induction ms generalizing came fuel first with
  | nil =>
    obtain ⟨k, rfl⟩ := Nat.exists_eq_add_of_lt hf
    rfl
  | cons m ms ih =>
    obtain ⟨k, rfl⟩ := Nat.exists_eq_add_of_lt hf
    rw [List.map_cons (f := Prod.fst), List.reverse_cons, List.append_assoc,
      List.singleton_append] at hnew ⊢
    obtain ⟨c, hmem, rfl⟩ := mem_members.mp (hms m List.mem_cons_self)
    have hcame : c.1.name ∉ came := (List.nodup_cons.mp (List.nodup_append.mp hnew).2.1).1
    have hrest := ih (fun m h => hms m (List.mem_cons_of_mem _ h)) hnew
      (show ms.length < (Field.written c :: ms).length + k by rw [List.length_cons]; omega) false
    have hread := hc c hmem _ (ends_listed ends_brace (ms.map memberText) rest)
    rw [List.map_cons, draftOfText, nextName_listed, ok_bind]
    dsimp only
    rw [Field.written]
    dsimp only
    rw [fill_text (.ok _) hr hmem hcame hread]
    exact hrest

/-- A record is read from the text of its members in any order. -/
theorem ofText_obj (hr : r.Proper) {levels : Nat}
    (hc : ∀ c ∈ r.contents x, ∀ rest, Ends rest →
      c.1.cell.ofText levels ((c.1.cell.toTree c.2).chars ++ rest) = .ok (c.2, rest))
    {ms : List (String × Value)} (hms : ms.Perm (r.members x)) (rest : List Char) :
    r.ofText (levels + 1) ((Value.obj ms).chars ++ rest) = .ok (x, rest) := by
  have hhead : head ((Value.obj ms).chars ++ rest) = .ok (.object, memberChars ms ++ rest) := rfl
  have hlen := length_le_listed '\x7d' true (ms.map memberText)
  rw [List.length_map] at hlen
  have hfuel : ms.length < (listed '\x7d' true (ms.map memberText) ++ rest).length + 1 := by
    rw [List.length_append]
    omega
  have hdraft := draftOfText_part hr hc (fun m h => hms.mem_iff.mp h) (nodup_seen hr hms) hfuel
    true rest
  rw [List.append_nil, part, Draft.part_nil] at hdraft
  rw [ofText, hhead]
  dsimp only
  rw [memberChars_eq, hdraft, ok_bind, finish_part hms, ok_bind, hr.ofRow]
  rfl

/-- What is wrong with the member that comes first is wrong with the record. -/
theorem ofText_refused (hr : r.Proper) {levels : Nat} {c : (f : Field) × f.carrier}
    (hmem : c ∈ r.contents x) {e : Flaw}
    (hc : ∀ rest, Ends rest →
      c.1.cell.ofText levels ((c.1.cell.toTree c.2).chars ++ rest) = .error e)
    (ms : List (String × Value)) (rest : List Char) :
    r.ofText (levels + 1) ((Value.obj (Field.written c :: ms)).chars ++ rest) = .error e := by
  have hhead : head ((Value.obj (Field.written c :: ms)).chars ++ rest) =
      .ok (.object, memberChars (Field.written c :: ms) ++ rest) := rfl
  have hread := hc _ (ends_listed ends_brace (ms.map memberText) rest)
  rw [ofText, hhead]
  dsimp only
  rw [memberChars_eq, List.map_cons, draftOfText, nextName_listed, ok_bind,
    ← Draft.part_nil r.fields (r.toRow x)]
  dsimp only
  rw [Field.written]
  dsimp only
  rw [← part, fill_text (.error e) hr hmem List.not_mem_nil hread]
  rfl

/-! Records as a whole -/

theorem toTree_obj (hr : r.Proper) (x : ρ) :
    ∃ ms, ms.Perm (r.members x) ∧ r.toTree x = .obj ms := by
  refine ⟨_, sortMembers_perm ?_, rfl⟩
  rw [names_members]
  exact hr.names

/-- A record is as exact as its fields. -/
theorem exact_toTree (hr : r.Proper)
    (hc : ∀ c ∈ r.contents x, (c.1.cell.toTree c.2).Exact) : (r.toTree x).Exact := by
  obtain ⟨ms, hms, htree⟩ := toTree_obj hr x
  have hsort : sortMembers (r.members x) = ms := Value.obj.inj htree
  rw [htree]
  refine .obj (hsort ▸ sortMembers_pairwise _) fun m hm => ?_
  obtain ⟨c, hmem, rfl⟩ := mem_members.mp (hms.mem_iff.mp hm)
  exact hc c hmem

/-- A record nests one deeper than its fields. -/
theorem depth_toTree (hr : r.Proper) {d : Nat}
    (hc : ∀ c ∈ r.contents x, (c.1.cell.toTree c.2).depth ≤ d) : (r.toTree x).depth ≤ d + 1 := by
  obtain ⟨ms, hms, htree⟩ := toTree_obj hr x
  rw [htree, Value.depth]
  refine Nat.succ_le_succ (depthMembers_le fun m hm => ?_)
  obtain ⟨c, hmem, rfl⟩ := mem_members.mp (hms.mem_iff.mp hm)
  exact hc c hmem

theorem ofTree_toTree (hr : r.Proper)
    (hc : ∀ c ∈ r.contents x, c.1.cell.ofTree (c.1.cell.toTree c.2) = .ok c.2) :
    r.ofTree (r.toTree x) = .ok x := by
  obtain ⟨ms, hms, htree⟩ := toTree_obj hr x
  rw [htree, ofTree_obj hr hc hms]

theorem decode_obj (hr : r.Proper)
    (hc : ∀ c ∈ r.contents x, ∀ rest, Ends rest →
      c.1.cell.ofText 126 ((c.1.cell.toTree c.2).chars ++ rest) = .ok (c.2, rest))
    {ms : List (String × Value)} (hms : ms.Perm (r.members x)) :
    r.decode (Value.obj ms).text = .ok x := by
  have htext := ofText_obj hr hc hms []
  rw [List.append_nil] at htext
  rw [decode, Json.ofText, Value.text, String.toList_ofList, maxLevels, htext]
  rfl

/-- What is wrong with the member that comes first is wrong with the whole text. -/
theorem decode_refused (hr : r.Proper) {c : (f : Field) × f.carrier} (hmem : c ∈ r.contents x)
    {e : Flaw}
    (hc : ∀ rest, Ends rest →
      c.1.cell.ofText 126 ((c.1.cell.toTree c.2).chars ++ rest) = .error e)
    (ms : List (String × Value)) :
    r.decode (Value.obj (Field.written c :: ms)).text = .error e := by
  have htext := ofText_refused hr hmem hc ms []
  rw [List.append_nil] at htext
  rw [decode, Json.ofText, Value.text, String.toList_ofList, maxLevels, htext]
  rfl

theorem decode_toTree (hr : r.Proper)
    (hc : ∀ c ∈ r.contents x, ∀ rest, Ends rest →
      c.1.cell.ofText 126 ((c.1.cell.toTree c.2).chars ++ rest) = .ok (c.2, rest)) :
    r.decode (r.toTree x).text = .ok x := by
  obtain ⟨ms, hms, htree⟩ := toTree_obj hr x
  rw [htree, decode_obj hr hc hms]

/-- A record of faithful cells is read as it was written. -/
theorem decode_encode (hr : r.Proper) (hcells : ∀ f ∈ r.fields, f.cell.Faithful) (x : ρ) :
    r.decode (r.encode x) = .ok x :=
  decode_obj hr (fun c hmem rest hrest => (hcells c.1 (field_mem hmem)).ofText 126 c.2 rest hrest)
    (.refl _)

end Record

end Intercept.Json
