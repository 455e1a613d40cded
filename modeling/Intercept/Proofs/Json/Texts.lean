import Intercept.Proofs.Json.Fields
import Intercept.Proofs.Json.Skipping

/-!
Records in text. Each member that comes is read into its field or passed over, so what comes of a
text is what comes of the fields of its document.
-/

namespace Intercept.Json

def textReader (levels : Nat) : FieldReader Doc := fun _ cell d =>
  (d.upTo levels).bind fun v => (cell.ofTree v).toOption

theorem textReader_tree (levels : Nat) (d : Doc) :
    textReader levels Value .tree d = d.upTo levels := by
  rw [textReader]
  cases d.upTo levels <;> rfl

/-- A cell that reads text as it reads the document that the text is of. -/
def Cell.Agrees {α : Type} (cell : Cell α) : Prop :=
  ∀ levels d, Takes (cell.ofText levels) d.tokens (textReader levels α cell d)

namespace Cell

theorem agrees_tree : tree.Agrees := by
  intro levels d
  rw [textReader_tree]
  exact value_doc d levels

theorem head_tree {d : Doc} (hd : d.depth = 0) : d.tree?.map Value.head = d.head? := by
  cases d with
  | null => rfl
  | bool b => rfl
  | number n =>
    rw [Doc.tree?, Number.tree?, Doc.head?]
    cases hn : n.head? with
    | none => rfl
    | some h => rcases numeric_head hn with ⟨k, rfl⟩ | ⟨y, rfl⟩ <;> rfl
  | str ps =>
    rw [Doc.tree?, Doc.head?]
    cases Piece.text? ps <;> rfl
  | arr ds => cases hd
  | obj ms => cases hd

/-- A scalar cell does so if it holds no containers. -/
theorem agrees_scalar {α : Type} {ofHead : Head → Except Flaw α} {toTree : α → Value}
    (hlist : (ofHead .list).toOption = none) (hobject : (ofHead .object).toOption = none) :
    (scalar ofHead toTree).Agrees := by
  intro levels d more cs hm h
  obtain ⟨cs', hcs', hhead⟩ := head_doc d hm h
  obtain ⟨rest, hrest, -⟩ := spaced_drop _ hcs'
  have htext : ((scalar ofHead toTree).ofText levels cs).toOption =
      (head cs).toOption.bind fun r => (ofHead r.1).toOption.map (·, r.2) := by
    refine (toOption_bind _ _).trans (congrArg _ (funext fun r => ?_))
    dsimp only
    cases ofHead r.1 <;> rfl
  have htree (v : Value) : ((scalar ofHead toTree).ofTree v).toOption = (ofHead v.head).toOption :=
    rfl
  rw [htext, hhead, textReader]
  simp only [htree]
  rcases Nat.eq_zero_or_pos d.depth with hd | hd
  · rw [Doc.inner_scalar hd] at hcs'
    refine ⟨cs', hcs', ?_⟩
    rw [Doc.upTo, if_pos (hd ▸ Nat.zero_le levels), ← head_tree hd]
    cases d.tree? <;> rfl
  · refine ⟨rest, hrest, ?_⟩
    rw [Doc.upTo]
    cases d with
    | arr ds =>
      rw [Doc.head?, Doc.tree?, Option.map_some, Option.bind_some, hlist]
      split
      · cases docTrees? ds with
        | none => rfl
        | some vs => exact (congrArg (Option.map (·, rest)) hlist).symm
      · rfl
    | obj ms =>
      rw [Doc.head?, Doc.tree?, Option.map_some, Option.bind_some, hobject]
      split
      · cases memberTrees? ms with
        | none => rfl
        | some vs => exact (congrArg (Option.map (·, rest)) hobject).symm
      · rfl
    | _ => cases hd

theorem agrees_i64 : i64.Agrees := agrees_scalar rfl rfl

/-- A cell for what another cell can hold a code of. -/
theorem agrees_coded {α β : Type} {inner : Cell α} (h : inner.Agrees) {cell : Cell β}
    (ofCode : α → Except Flaw β) (hofTree : ∀ v, cell.ofTree v = inner.ofTree v >>= ofCode)
    (hofText : ∀ levels cs, cell.ofText levels cs =
      inner.ofText levels cs >>= fun r => (ofCode r.1).map (·, r.2)) : cell.Agrees := by
  intro levels d more cs hm hcs
  obtain ⟨rest, hrest, hinner⟩ := h levels d more cs hm hcs
  refine ⟨rest, hrest, ?_⟩
  rw [hofText, toOption_bind, hinner, textReader, textReader]
  cases d.upTo levels with
  | none => rfl
  | some v =>
    rw [Option.bind_some, Option.bind_some, hofTree, toOption_bind]
    cases inner.ofTree v with
    | error e => rfl
    | ok x =>
      change ((ofCode x).map (·, rest)).toOption = (ofCode x).toOption.map (·, rest)
      cases ofCode x <;> rfl

end Cell

/-- The members of an object by their names, if these are strings of whole characters; or the items
of a list by the names of the fields. -/
def Doc.fields? (names : List String) : Doc → Option (List (String × Doc))
  | .obj ms => ms.mapM (memberOf some)
  | .arr ds => Record.named? names ds
  | _ => none

namespace Record

variable {ρ : Type} {r : Record ρ}

/-- A member that comes is read into its field, or passed over. -/
theorem fill_doc (hr : r.Proper) (hcells : ∀ f ∈ r.fields, f.cell.Agrees) (levels : Nat)
    (name : String) (x : Doc) (d : Draft r.fields) {more : List (List Char)} {cs : List Char}
    (hm : Follows more) (h : Spaced ([':'] :: (x.tokens ++ more)) cs) :
    ∃ rest, Spaced more rest ∧
      (Draft.fill name (fun cell => do cell.ofText levels (← colon cs))
          (do skipValue (← colon cs)) r.fields d).toOption =
        (Draft.take (textReader levels) (name, x) r.fields d).map (·, rest) := by
  obtain ⟨cs', hcs', hcolon⟩ := colon_doc h
  by_cases hname : name ∈ r.fields.map Field.name
  · obtain ⟨f, hf, rfl⟩ := List.mem_map.mp hname
    obtain ⟨rest, hrest, hread⟩ := hcells f hf levels x more cs' hm hcs'
    refine ⟨rest, hrest, Draft.fill_take (fun g hg heq => ?_) (fun hnot => absurd hname hnot) d⟩
    obtain rfl : f = g := List.inj_on_of_nodup_map hr.names hf hg heq
    rw [hcolon, ok_bind, hread]
  · obtain ⟨rest, hrest, hskip⟩ := skipValue_doc x hm hcs'
    refine ⟨rest, hrest, Draft.fill_take (fun g hg heq => ?_) (fun _ => ?_) d⟩
    · exact absurd (heq ▸ List.mem_map_of_mem hg) hname
    · rw [hcolon, ok_bind, hskip]
      rfl

/-- The members of an object are taken one after the other. -/
theorem members_gather (read : FieldReader Doc) (fs : List Field) (k : List Piece) (x : Doc)
    (ms : List (List Piece × Doc)) (d : Draft fs) :
    ((((k, x) :: ms).mapM (memberOf some)).bind fun ns => Draft.gather read fs ns d) =
      (Piece.text? k).bind fun s => (Draft.take read (s, x) fs d).bind fun e =>
        (ms.mapM (memberOf some)).bind fun ns => Draft.gather read fs ns e := by
  rw [List.mapM_cons, memberOf]
  cases Piece.text? k with
  | none => rfl
  | some s =>
    rw [Option.bind_some]
    cases ms.mapM (memberOf some) with
    | none => cases Draft.take read (s, x) fs d <;> rfl
    | some ns => exact Draft.gather_step fs (s, x) ns d

theorem draftOfText_doc (hr : r.Proper) (hcells : ∀ f ∈ r.fields, f.cell.Agrees) (levels : Nat)
    {ms : List (List Piece × Doc)} {fuel : Nat} (hf : ms.length < fuel) (first : Bool)
    (d : Draft r.fields) {more : List (List Char)} {cs : List Char}
    (h : Spaced (memberTokens first ms ++ more) cs) :
    ∃ rest, Spaced (['\x7d'] :: more) rest ∧
      (r.draftOfText levels fuel first d cs).toOption =
        ((ms.mapM (memberOf some)).bind fun ns =>
          Draft.gather (textReader levels) r.fields ns d).map (·, rest) := by
  induction ms generalizing fuel first cs d with
  | nil =>
    obtain ⟨k, rfl⟩ := Nat.exists_eq_succ_of_ne_zero (Nat.ne_zero_of_lt hf)
    obtain ⟨rest, hrest, hname⟩ := nextName_end first h
    refine ⟨rest, hrest, ?_⟩
    rw [draftOfText, hname]
    rfl
  | cons m ms ih =>
    obtain ⟨k, x⟩ := m
    obtain ⟨j, rfl⟩ := Nat.exists_eq_succ_of_ne_zero (Nat.ne_zero_of_lt hf)
    rw [memberTokens, List.append_assoc, List.cons_append, List.cons_append,
      List.append_assoc] at h
    obtain ⟨cs₁, hcs₁, hname⟩ := nextName_doc k first h
    have hfollows := follows_members ms more
    rw [draftOfText, toOption_bind, hname, members_gather]
    cases Piece.text? k with
    | none =>
      obtain ⟨cs₂, hcs₂, -⟩ := fill_doc hr hcells levels "" x d hfollows hcs₁
      obtain ⟨rest, hrest, -⟩ := ih (Nat.lt_of_succ_lt_succ hf) false d hcs₂
      exact ⟨rest, hrest, rfl⟩
    | some s =>
      obtain ⟨cs₂, hcs₂, hfill⟩ := fill_doc hr hcells levels s x d hfollows hcs₁
      dsimp only [Option.map_some, Option.bind_some]
      rw [toOption_bind, hfill]
      cases Draft.take (textReader levels) (s, x) r.fields d with
      | none =>
        obtain ⟨rest, hrest, -⟩ := ih (Nat.lt_of_succ_lt_succ hf) false d hcs₂
        exact ⟨rest, hrest, rfl⟩
      | some e => exact ih (Nat.lt_of_succ_lt_succ hf) false e hcs₂

theorem endItems_refused {c : Char} {cs rest : List Char} (h : skipSpace cs = c :: rest)
    (hc : c ≠ ']') : (endItems cs).toOption = none := by
  rw [endItems, h]
  dsimp only
  rw [if_neg hc]
  split
  · split <;> rfl
  · rfl

/-- Where an item stands, a list does not end. -/
theorem endItems_item {first : Bool} {d : Doc} {ds : List Doc} {more : List (List Char)}
    {cs : List Char} (h : Spaced (itemTokens first (d :: ds) ++ more) cs) :
    (endItems cs).toOption = none := by
  obtain ⟨c, t, htokens, hc, hne⟩ := d.tokens_eq
  rw [itemTokens, List.append_assoc, List.append_assoc, htokens] at h
  cases first with
  | true =>
    obtain ⟨cs', -, hskip⟩ := spaced_cons (solid_cons hc t) h
    exact endItems_refused hskip hne
  | false =>
    obtain ⟨cs', -, hskip⟩ := spaced_sign rfl h
    exact endItems_refused hskip (by decide)

def closedRow (record : String) (width levels found : Nat) (fs : List Field) (cs : List Char) :
    Option (Row fs × List Char) :=
  (Row.ofItems record width levels found fs cs).toOption.bind fun row =>
    (endItems row.2).toOption.map (row.1, ·)

theorem closedRow_nil (record : String) (width levels found : Nat) (cs : List Char) :
    closedRow record width levels found [] cs = (endItems cs).toOption.map ((), ·) := rfl

theorem closedRow_item {record : String} {width levels found : Nat} {f : Field} {fs : List Field}
    {cs cs₁ : List Char} (h : moreItems (found == 0) cs = .ok (true, cs₁)) :
    closedRow record width levels found (f :: fs) cs =
      (f.cell.ofText levels cs₁).toOption.bind fun r =>
        (closedRow record width levels (found + 1) fs r.2).map fun row =>
          ((r.1, row.1), row.2) := by
  rw [closedRow, Row.ofItems, h, ok_bind]
  dsimp only
  rw [if_pos rfl]
  cases f.cell.ofText levels cs₁ with
  | error e => rfl
  | ok r =>
    rw [ok_bind, toOption_ok, Option.bind_some, closedRow]
    cases Row.ofItems record width levels (found + 1) fs r.2 with
    | error e => rfl
    | ok row =>
      rw [ok_bind, toOption_ok, toOption_ok, Option.bind_some, Option.bind_some]
      cases endItems row.2 <;> rfl

theorem closedRow_end {record : String} {width levels found : Nat} {f : Field} {fs : List Field}
    {cs cs₁ : List Char} (h : moreItems (found == 0) cs = .ok (false, cs₁)) :
    closedRow record width levels found (f :: fs) cs =
      f.absent.bind fun x =>
        (closedRow record width levels (found + 1) fs cs₁).map fun row =>
          ((x, row.1), row.2) := by
  rw [closedRow, Row.ofItems, h, ok_bind]
  dsimp only
  rw [if_neg Bool.false_ne_true]
  cases f.absent with
  | none => rfl
  | some x =>
    dsimp only
    rw [Option.bind_some, closedRow]
    cases Row.ofItems record width levels (found + 1) fs cs₁ with
    | error e => rfl
    | ok row =>
      rw [ok_bind, toOption_ok, toOption_ok, Option.bind_some, Option.bind_some]
      cases endItems row.2 <;> rfl

theorem ofItems_doc (record : String) (width levels : Nat) {fs : List Field}
    (hcells : ∀ f ∈ fs, f.cell.Agrees) (found : Nat) (ds : List Doc) {more : List (List Char)}
    {cs : List Char} (h : Spaced (itemTokens (found == 0) ds ++ more) cs) :
    ∃ rest, Spaced more rest ∧
      closedRow record width levels found fs cs =
        (Row.ofList? (textReader levels) fs ds).map (·, rest) := by
  induction fs generalizing found ds cs with
  | nil =>
    cases ds with
    | nil =>
      obtain ⟨rest, hrest, hend⟩ := endItems_doc h
      exact ⟨rest, hrest, by rw [closedRow_nil, hend]; rfl⟩
    | cons d ds =>
      obtain ⟨rest, hrest, -⟩ := spaced_drop _ h
      exact ⟨rest, hrest, by rw [closedRow_nil, endItems_item h]; rfl⟩
  | cons f fs ih =>
    have hfs : ∀ g ∈ fs, g.cell.Agrees := fun g hg => hcells g (List.mem_cons_of_mem f hg)
    cases ds with
    | nil =>
      obtain ⟨cs₁, hcs₁, hmore⟩ := moreItems_end (found == 0) h
      obtain ⟨rest, hrest, hrow⟩ := ih hfs (found + 1) [] hcs₁
      refine ⟨rest, hrest, ?_⟩
      rw [closedRow_end hmore, hrow, Row.ofList?]
      cases f.absent with
      | none => rfl
      | some x => cases Row.ofList? (textReader levels) fs [] <;> rfl
    | cons d ds =>
      rw [itemTokens, List.append_assoc, List.append_assoc] at h
      obtain ⟨cs₁, hcs₁, hmore⟩ := moreItems_doc d _ h
      obtain ⟨cs₂, hcs₂, hread⟩ :=
        hcells f List.mem_cons_self levels d _ _ (follows_items ds more) hcs₁
      obtain ⟨rest, hrest, hrow⟩ := ih hfs (found + 1) ds hcs₂
      refine ⟨rest, hrest, ?_⟩
      rw [closedRow_item hmore, hread, Row.ofList?]
      cases textReader levels f.carrier f.cell d with
      | none => rfl
      | some x =>
        dsimp only [Option.map_some, Option.bind_some]
        rw [hrow]
        cases Row.ofList? (textReader levels) fs ds <;> rfl

theorem ofText_scalar {levels : Nat} {cs rest : List Char} {x : Option Head}
    (h : (head cs).toOption = x.map (·, rest)) (hlist : x ≠ some .list)
    (hobject : x ≠ some .object) : (r.ofText levels cs).toOption = none := by
  cases x with
  | none =>
    obtain ⟨e, he⟩ := error_of_toOption h
    rw [ofText, he]
    rfl
  | some x =>
    rw [ofText, ok_of_toOption h]
    cases x with
    | list => exact absurd rfl hlist
    | object => exact absurd rfl hobject
    | _ => rfl

theorem ofText_list {levels : Nat} {cs cs' : List Char}
    (h : (head cs).toOption = some (.list, cs')) :
    (r.ofText (levels + 1) cs).toOption =
      (closedRow r.name r.fields.length levels 0 r.fields cs').map fun row =>
        (r.ofRow row.1, row.2) := by
  rw [ofText, ok_of_toOption h]
  dsimp only
  rw [closedRow, toOption_bind, Option.map_bind]
  refine congrArg (Option.bind _) (funext fun row => ?_)
  rw [Function.comp_apply]
  cases endItems row.2 <;> rfl

/-- A record in text is read for its fields alone. -/
theorem ofText_fields (hr : r.Proper) (hcells : ∀ f ∈ r.fields, f.cell.Agrees) (levels : Nat)
    (d : Doc) :
    Takes (r.ofText (levels + 1)) d.tokens
      ((d.fields? r.names).bind (r.ofFields? (textReader levels))) := by
  intro more cs hm h
  obtain ⟨cs', hcs', hhead⟩ := head_doc d hm h
  cases d with
  | arr ds =>
    obtain ⟨rest, hrest, hrow⟩ :=
      ofItems_doc r.name r.fields.length levels hcells 0 ds hcs'
    refine ⟨rest, hrest, ?_⟩
    rw [ofText_list hhead, hrow, Doc.fields?, ← ofList_named hr, Option.map_map, Option.map_map]
    rfl
  | obj ms =>
    obtain ⟨cs₁, hcs₁, hdraft⟩ := draftOfText_doc hr hcells levels
      (Nat.lt_succ_of_le (length_le_members hcs')) true (Draft.empty r.fields) hcs'
    obtain ⟨rest, hrest, hend⟩ := endMembers_doc hcs₁
    refine ⟨rest, hrest, ?_⟩
    rw [ofText, ok_of_toOption hhead]
    dsimp only
    rw [toOption_bind, hdraft, Doc.fields?]
    cases ms.mapM (memberOf some) with
    | none => rfl
    | some ns =>
      rw [Option.bind_some, Option.bind_some, Draft.gather_empty hr.names, ofFields?]
      cases Draft.picked (textReader levels) ns r.fields with
      | none => rfl
      | some d =>
        dsimp only [Option.map_some, Option.bind_some]
        rw [hend]
        cases Draft.finish r.fields d <;> rfl
  | _ =>
    refine ⟨cs', hcs', ?_⟩
    exact ofText_scalar hhead (Doc.head_scalar rfl).1 (Doc.head_scalar rfl).2

end Record

/-- A whole text is read as its document is. -/
theorem ofText_takes {α : Type} {item : List Char → Except Flaw (α × List Char)} {d : Doc}
    {out : Option α} (h : Takes item d.tokens out) {s : String} (hs : d.WrittenAs s) :
    (Json.ofText item s).toOption = out := by
  obtain ⟨rest, hrest, hitem⟩ := h [] s.toList follows_nil (by rwa [List.append_nil])
  have hempty : skipSpace rest = [] := List.dropWhile_eq_nil_iff.mpr hrest
  rw [Json.ofText, toOption_bind, hitem]
  cases out with
  | none => rfl
  | some x =>
    rw [Option.map_some, Option.bind_some]
    dsimp only
    rw [hempty]
    rfl

theorem Record.decode_eq_ok {ρ : Type} {r : Record ρ} (hr : r.Proper)
    (hcells : ∀ f ∈ r.fields, f.cell.Agrees) {d : Doc} {s : String} (hs : d.WrittenAs s) {x : ρ} :
    r.decode s = .ok x ↔ ∃ ns row, d.fields? r.names = some ns ∧
      Row.ofNamed? (textReader 126) ns r.fields = some row ∧ r.ofRow row = x := by
  rw [← ofFields_eq_some, ← ofText_takes (ofText_fields hr hcells 126 d) hs, toOption_eq_some]
  rfl

end Intercept.Json
