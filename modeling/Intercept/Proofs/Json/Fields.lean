import Intercept.Proofs.Json.Records
import Intercept.Proofs.Json.Reading

/-!
What a record is made of, whatever the order of its members. Of the members of one name there has
to be exactly one, or none; a record asks for the names of its fields and for nothing else. The same
holds in text and in memory, and a list of the fields in order is as good as an object of them.
-/

namespace Intercept.Json

variable {δ : Type}

/-- The content of the members of one name, none if there is no such member, unless there are more
of them. -/
def only (name : String) (ms : List (String × δ)) : Option (Option δ) :=
  match ms.filter (·.1 == name) with
  | [] => some none
  | [m] => some (some m.2)
  | _ => none

abbrev FieldReader (δ : Type) : Type 1 := (α : Type) → Cell α → δ → Option α

namespace Field

variable (read : FieldReader δ) (f : Field)

/-- A field that is not there is nothing; one that is has to be read. -/
def readAny : Option δ → Option (Option f.carrier)
  | none => some none
  | some x => (read f.carrier f.cell x).map some

/-- What a field holds: what is read of it, or what stands for it if it does not come. -/
def content : Option δ → Option f.carrier
  | none => f.absent
  | some x => read f.carrier f.cell x

def pick (ms : List (String × δ)) : Option (Option f.carrier) :=
  (only f.name ms).bind (f.readAny read)

def put (x : Option f.carrier) (m : String × δ) : Option (Option f.carrier) :=
  if x.isSome then none else (read f.carrier f.cell m.2).map some

def gather (ms : List (String × δ)) (x : Option f.carrier) : Option (Option f.carrier) :=
  (ms.filter (·.1 == f.name)).foldlM (f.put read) x

theorem gather_none (ms : List (String × δ)) : f.gather read ms none = f.pick read ms := by
  rw [gather, pick, only]
  cases ms.filter (·.1 == f.name) with
  | nil => rfl
  | cons m ns =>
    have hput : f.put read none m = (read f.carrier f.cell m.2).map some := rfl
    rw [List.foldlM_cons, hput]
    cases ns with
    | nil =>
      dsimp only [Option.bind_some, readAny]
      cases read f.carrier f.cell m.2 <;> rfl
    | cons n ns => cases read f.carrier f.cell m.2 <;> rfl

end Field

namespace Draft

variable (read : FieldReader δ)

def picked (ms : List (String × δ)) : (fs : List Field) → Option (Draft fs)
  | [] => some ()
  | f :: fs => (f.pick read ms).bind fun x => (picked ms fs).map (x, ·)

def take (m : String × δ) : (fs : List Field) → Draft fs → Option (Draft fs)
  | [], d => some d
  | f :: fs, (x, d) =>
    if m.1 = f.name then (f.put read x m).map (·, d) else (take m fs d).map (x, ·)

def gather (fs : List Field) (ms : List (String × δ)) (d : Draft fs) : Option (Draft fs) :=
  ms.foldlM (fun d m => take read m fs d) d

variable {read}

theorem take_other {m : String × δ} : ∀ {fs : List Field} (d : Draft fs),
    m.1 ∉ fs.map Field.name → take read m fs d = some d
  | [], _, _ => rfl
  | f :: fs, (x, d), h => by
    obtain ⟨hf, hfs⟩ := not_or.mp fun hor => h (List.mem_cons.mpr hor)
    rw [take, if_neg hf, take_other d hfs]
    rfl

theorem gather_step (fs : List Field) (m : String × δ) (ms : List (String × δ)) (d : Draft fs) :
    gather read fs (m :: ms) d = (take read m fs d).bind (gather read fs ms) := rfl

/-- The fields do not get in each other's way. -/
theorem gather_cons {f : Field} {fs : List Field} (hf : f.name ∉ fs.map Field.name)
    (ms : List (String × δ)) (x : Option f.carrier) (d : Draft fs) :
    gather read (f :: fs) ms (x, d) =
      (f.gather read ms x).bind fun x => (gather read fs ms d).map (x, ·) := by
  induction ms generalizing x d with
  | nil => rfl
  | cons m ms ih =>
    refine (gather_step (f :: fs) m ms (x, d)).trans ?_
    by_cases hm : m.1 = f.name
    · have htake : take read m (f :: fs) (x, d) = (f.put read x m).map (·, d) := if_pos hm
      have hfield : f.gather read (m :: ms) x = (f.put read x m).bind (f.gather read ms) := by
        have hfilter : (m :: ms).filter (·.1 == f.name) = m :: ms.filter (·.1 == f.name) :=
          List.filter_cons_of_pos (beq_iff_eq.mpr hm)
        rw [Field.gather, hfilter, List.foldlM_cons]
        rfl
      rw [htake, hfield, gather_step, take_other d (hm ▸ hf)]
      cases f.put read x m with
      | none => rfl
      | some y => exact ih y d
    · have htake : take read m (f :: fs) (x, d) = (take read m fs d).map (x, ·) := if_neg hm
      have hfield : f.gather read (m :: ms) x = f.gather read ms x := by
        have hfilter : (m :: ms).filter (·.1 == f.name) = ms.filter (·.1 == f.name) :=
          List.filter_cons_of_neg (by rwa [beq_iff_eq])
        rw [Field.gather, hfilter]
        rfl
      rw [htake, hfield, gather_step]
      cases take read m fs d with
      | none => cases f.gather read ms x <;> rfl
      | some e => exact ih x e

theorem gather_empty : ∀ {fs : List Field}, (fs.map Field.name).Nodup → ∀ ms : List (String × δ),
    gather read fs ms (empty fs) = picked read ms fs
  | [], _, ms => by
    induction ms with
    | nil => rfl
    | cons m ms ih => exact ih
  | f :: fs, h, ms => by
    obtain ⟨hf, hfs⟩ := List.nodup_cons.mp h
    refine (gather_cons hf ms none (empty fs)).trans ?_
    rw [Field.gather_none, gather_empty hfs]
    rfl

/-- A reader with errors fills in what the one without them does. -/
theorem fill_take {τ : Type} {name : String} {x : δ} {t : τ}
    {fill? : {α : Type} → Cell α → Except Flaw (α × τ)} {skip : Except Flaw τ} :
    ∀ {fs : List Field},
    (∀ f ∈ fs, name = f.name → (fill? f.cell).toOption = (read f.carrier f.cell x).map (·, t)) →
    (name ∉ fs.map Field.name → skip.toOption = some t) → ∀ d : Draft fs,
    (fill name fill? skip fs d).toOption = (take read (name, x) fs d).map (·, t)
  | [], _, hskip, d => by
    have hok := ok_of_toOption (hskip List.not_mem_nil)
    rw [fill, hok]
    rfl
  | f :: fs, hread, hskip, (y, d) => by
    by_cases hname : name = f.name
    · have htake : take read (name, x) (f :: fs) (y, d) = (f.put read y (name, x)).map (·, d) :=
        if_pos hname
      refine Eq.trans ?_ (congrArg (Option.map (·, t)) htake).symm
      rw [fill, if_pos hname]
      cases y with
      | some z => rfl
      | none =>
        have hcell := hread f List.mem_cons_self hname
        have hput : f.put read none (name, x) = (read f.carrier f.cell x).map some := rfl
        refine (toOption_bind (fill? f.cell) _).trans ?_
        rw [hcell, hput]
        cases read f.carrier f.cell x <;> rfl
    · have htake : take read (name, x) (f :: fs) (y, d) = (take read (name, x) fs d).map (y, ·) :=
        if_neg hname
      have hrest := fill_take (fun g hg => hread g (List.mem_cons_of_mem f hg))
        (fun h => hskip fun hor => (List.mem_cons.mp hor).elim hname h) d
      refine Eq.trans ?_ (congrArg (Option.map (·, t)) htake).symm
      rw [fill, if_neg hname, toOption_bind, hrest]
      cases take read (name, x) fs d <;> rfl

end Draft

namespace Record

variable {ρ : Type} (r : Record ρ) (read : FieldReader δ)

def names : List String := r.fields.map Field.name

def ofFields? (ms : List (String × δ)) : Option ρ :=
  (Draft.picked read ms r.fields).bind fun d =>
    (Draft.finish r.fields d).toOption.map r.ofRow

end Record

/-! Lists of fields -/

namespace Row

variable (read : FieldReader δ)

/-- The fields of a row in order, the last ones left out if they need not come. -/
def ofList? : (fs : List Field) → List δ → Option (Row fs)
  | [], [] => some ()
  | [], _ :: _ => none
  | f :: fs, x :: xs => (read f.carrier f.cell x).bind fun y => (ofList? fs xs).map (y, ·)
  | f :: fs, [] => f.absent.bind fun y => (ofList? fs []).map (y, ·)

variable {read}

theorem only_first {name : String} {x : δ} {ms : List (String × δ)}
    (h : name ∉ ms.map Prod.fst) : only name ((name, x) :: ms) = some (some x) := by
  have hnone : ms.filter (·.1 == name) = [] := by
    refine List.filter_eq_nil_iff.mpr fun m hm heq => h ?_
    rw [← beq_iff_eq.mp heq]
    exact List.mem_map_of_mem hm
  have hfilter : ((name, x) :: ms).filter (·.1 == name) = (name, x) :: ms.filter (·.1 == name) :=
    List.filter_cons_of_pos (beq_self_eq_true name)
  rw [only, hfilter, hnone]

theorem only_other {name other : String} {x : δ} (h : other ≠ name) (ms : List (String × δ)) :
    only name ((other, x) :: ms) = only name ms := by
  have hfilter : ((other, x) :: ms).filter (·.1 == name) = ms.filter (·.1 == name) :=
    List.filter_cons_of_neg (by rwa [beq_iff_eq])
  rw [only, only, hfilter]

theorem picked_other {name : String} {x : δ} {ms : List (String × δ)} :
    ∀ {fs : List Field}, name ∉ fs.map Field.name →
      Draft.picked read ((name, x) :: ms) fs = Draft.picked read ms fs
  | [], _ => rfl
  | f :: fs, h => by
    obtain ⟨hf, hfs⟩ := not_or.mp fun hor => h (List.mem_cons.mpr hor)
    rw [Draft.picked, Draft.picked, Field.pick, only_other hf, picked_other hfs]
    rfl

theorem names_zip {names : List String} {xs : List δ} {name : String}
    (h : name ∈ (names.zip xs).map Prod.fst) : name ∈ names := by
  obtain ⟨m, hm, rfl⟩ := List.mem_map.mp h
  exact (List.of_mem_zip hm).1

theorem finish_cons {f : Field} {fs : List Field} (x : Option f.carrier) (d : Draft fs) :
    (Draft.finish (f :: fs) (x, d)).toOption =
      (x.or f.absent).bind fun y => (Draft.finish fs d).toOption.map (y, ·) := by
  rw [Draft.finish]
  cases x.or f.absent with
  | none => rfl
  | some y =>
    dsimp only
    cases Draft.finish fs d <;> rfl

/-- One field more, and the others apart from it. -/
theorem finish_picked {f : Field} {fs : List Field} {ms : List (String × δ)}
    {x : Option f.carrier} (hx : f.pick read ms = some x) :
    ((Draft.picked read ms (f :: fs)).bind fun d => (Draft.finish (f :: fs) d).toOption) =
      (x.or f.absent).bind fun y =>
        ((Draft.picked read ms fs).bind fun d => (Draft.finish fs d).toOption).map (y, ·) := by
  rw [Draft.picked, hx, Option.bind_some]
  cases Draft.picked read ms fs with
  | none => cases x.or f.absent <;> rfl
  | some d => exact finish_cons x d

def ofNamed? (read : FieldReader δ) (ms : List (String × δ)) : (fs : List Field) → Option (Row fs)
  | [] => some ()
  | f :: fs =>
    ((only f.name ms).bind (f.content read)).bind fun y => (ofNamed? read ms fs).map (y, ·)

theorem ofNamed_cons {ms : List (String × δ)} {f : Field} {fs : List Field} {y : f.carrier}
    {row : Row fs} :
    ofNamed? read ms (f :: fs) = some (y, row) ↔
      (∃ x, only f.name ms = some x ∧ f.content read x = some y) ∧
        ofNamed? read ms fs = some row := by
  rw [ofNamed?, ← Option.bind_eq_some_iff]
  cases (only f.name ms).bind (f.content read) with
  | none => exact iff_of_false nofun fun h => nomatch h.1
  | some z =>
    cases ofNamed? read ms fs with
    | none => exact iff_of_false nofun fun h => nomatch h.2
    | some left =>
      constructor
      · intro h
        cases h
        exact ⟨rfl, rfl⟩
      · rintro ⟨hz, hleft⟩
        cases hz
        cases hleft
        rfl

theorem finish_eq (ms : List (String × δ)) : ∀ fs : List Field,
    ((Draft.picked read ms fs).bind fun d => (Draft.finish fs d).toOption) = ofNamed? read ms fs
  | [] => rfl
  | f :: fs => by
    rw [ofNamed?, ← finish_eq ms fs]
    cases hx : f.pick read ms with
    | none =>
      rw [Draft.picked, hx]
      rw [Field.pick] at hx
      cases honly : only f.name ms with
      | none => rfl
      | some x =>
        rw [honly] at hx
        cases x with
        | none => cases hx
        | some x => rw [Option.bind_some, Field.content, Option.map_eq_none_iff.mp hx]; rfl
    | some x =>
      rw [finish_picked hx]
      refine congrArg (Option.bind · _) ?_
      rw [Field.pick] at hx
      cases honly : only f.name ms with
      | none => rw [honly] at hx; cases hx
      | some z =>
        rw [honly] at hx
        cases z with
        | none => cases hx; rfl
        | some z =>
          obtain ⟨y, hy, rfl⟩ := Option.map_eq_some_iff.mp hx
          exact hy.symm

/-- A list of fields is as good as an object of them. -/
theorem ofList_zip : ∀ {fs : List Field}, (fs.map Field.name).Nodup → ∀ xs : List δ,
    ofList? read fs xs =
      if xs.length ≤ fs.length then
        (Draft.picked read ((fs.map Field.name).zip xs) fs).bind fun d =>
          (Draft.finish fs d).toOption
      else none
  | [], _, [] => rfl
  | [], _, x :: xs => rfl
  | f :: fs, h, [] => by
    obtain ⟨hf, hfs⟩ := List.nodup_cons.mp h
    have hrest := ofList_zip hfs []
    have hpick : f.pick read (δ := δ) [] = some none := rfl
    rw [List.length_nil, if_pos (Nat.zero_le _), List.zip_nil_right] at hrest ⊢
    rw [ofList?, hrest, finish_picked hpick, Option.none_or]
    rfl
  | f :: fs, h, x :: xs => by
    obtain ⟨hf, hfs⟩ := List.nodup_cons.mp h
    have hrest := ofList_zip hfs xs
    have hpick : f.pick read ((f.name, x) :: (fs.map Field.name).zip xs) =
        (read f.carrier f.cell x).map some := by
      rw [Field.pick, only_first fun hmem => hf (names_zip hmem)]
      rfl
    rw [ofList?, hrest, List.map_cons, List.zip_cons_cons, List.length_cons, List.length_cons]
    by_cases hlen : xs.length ≤ fs.length
    · rw [if_pos hlen, if_pos (Nat.succ_le_succ hlen)]
      cases hy : read f.carrier f.cell x with
      | none =>
        rw [hy] at hpick
        rw [Draft.picked, hpick]
        rfl
      | some y =>
        rw [hy] at hpick
        rw [finish_picked hpick, picked_other hf]
        rfl
    · rw [if_neg hlen, if_neg fun h => hlen (Nat.le_of_succ_le_succ h)]
      cases read f.carrier f.cell x <;> rfl

end Row

namespace Record

variable {ρ : Type} {r : Record ρ} {read : FieldReader δ}

def named? (names : List String) (xs : List δ) : Option (List (String × δ)) :=
  if xs.length ≤ names.length then some (names.zip xs) else none

theorem ofFields_eq (ms : List (String × δ)) :
    r.ofFields? read ms = (Row.ofNamed? read ms r.fields).map r.ofRow := by
  rw [ofFields?, ← Row.finish_eq, Option.map_bind]
  rfl

theorem ofFields_eq_some {ms? : Option (List (String × δ))} {x : ρ} :
    ms?.bind (r.ofFields? read) = some x ↔
      ∃ ms row, ms? = some ms ∧ Row.ofNamed? read ms r.fields = some row ∧ r.ofRow row = x := by
  rw [Option.bind_eq_some_iff]
  refine exists_congr fun ms => ?_
  rw [ofFields_eq, Option.map_eq_some_iff]
  exact ⟨fun ⟨h, row, hrow⟩ => ⟨row, h, hrow⟩, fun ⟨row, h, hrow⟩ => ⟨h, row, hrow⟩⟩

theorem ofList_named (hr : r.Proper) (xs : List δ) :
    (Row.ofList? read r.fields xs).map r.ofRow =
      (named? r.names xs).bind (r.ofFields? read) := by
  rw [Row.ofList_zip hr.names, named?, names, List.length_map]
  split
  · rw [Option.map_bind]
    rfl
  · rfl

end Record

/-! Documents in memory -/

def treeReader : FieldReader Value := fun _ cell v => (cell.ofTree v).toOption

/-- The fields of a record that is an object, or a list of the fields in order. -/
def Value.fields? (names : List String) : Value → Option (List (String × Value))
  | .obj ms => some ms
  | .arr vs => Record.named? names vs
  | _ => none

namespace Record

variable {ρ : Type} {r : Record ρ}

theorem draftOfMembers_gather (ms : List (String × Value)) (d : Draft r.fields) :
    (r.draftOfMembers d ms).toOption = Draft.gather treeReader r.fields ms d := by
  induction ms generalizing d with
  | nil => rfl
  | cons m ms ih =>
    obtain ⟨k, v⟩ := m
    have hfill :
        (Draft.fill k (fun cell => do .ok (← cell.ofTree v, ())) (.ok ()) r.fields d).toOption =
        (Draft.take treeReader (k, v) r.fields d).map (·, ()) := by
      refine Draft.fill_take (fun f _ _ => ?_) (fun _ => rfl) d
      rw [treeReader]
      cases f.cell.ofTree v <;> rfl
    rw [draftOfMembers, toOption_bind, hfill, Draft.gather_step]
    cases Draft.take treeReader (k, v) r.fields d with
    | none => rfl
    | some e => exact ih e

theorem ofValues_list (record : String) (width found : Nat) (fs : List Field) (vs : List Value) :
    ((Row.ofValues record width found fs vs).toOption.bind fun row =>
      if row.2.isEmpty then some row.1 else none) = Row.ofList? treeReader fs vs := by
  induction fs generalizing found vs with
  | nil => cases vs <;> rfl
  | cons f fs ih =>
    cases vs with
    | nil =>
      rw [Row.ofValues, Row.ofList?, ← ih (found + 1)]
      cases f.absent with
      | none => rfl
      | some x =>
        dsimp only
        cases Row.ofValues record width (found + 1) fs [] with
        | error e => rfl
        | ok row =>
          obtain ⟨row, left⟩ := row
          cases left <;> rfl
    | cons v vs =>
      rw [Row.ofValues, Row.ofList?, ← ih (found + 1), treeReader]
      cases f.cell.ofTree v with
      | error e => rfl
      | ok x =>
        rw [ok_bind]
        cases Row.ofValues record width (found + 1) fs vs with
        | error e => rfl
        | ok row =>
          obtain ⟨row, left⟩ := row
          cases left <;> rfl

theorem ofTree_fields (hr : r.Proper) (v : Value) :
    (r.ofTree v).toOption = (v.fields? r.names).bind (r.ofFields? treeReader) := by
  cases v with
  | obj ms =>
    have hdraft := draftOfMembers_gather (r := r) ms (Draft.empty r.fields)
    rw [Draft.gather_empty hr.names] at hdraft
    rw [ofTree, toOption_bind, hdraft]
    refine congrArg (Draft.picked treeReader ms r.fields).bind (funext fun d => ?_)
    cases Draft.finish r.fields d <;> rfl
  | arr vs =>
    have hlist : (r.ofTree (.arr vs)).toOption =
        (Row.ofList? treeReader r.fields vs).map r.ofRow := by
      rw [← ofValues_list r.name r.fields.length 0, ofTree]
      cases Row.ofValues r.name r.fields.length 0 r.fields vs with
      | error e => rfl
      | ok row =>
        obtain ⟨row, left⟩ := row
        cases left <;> rfl
    rw [hlist, ofList_named hr, Value.fields?]
  | _ => rfl

theorem ofTree_eq_ok (hr : r.Proper) {v : Value} {x : ρ} :
    r.ofTree v = .ok x ↔ ∃ ns row, v.fields? r.names = some ns ∧
      Row.ofNamed? treeReader ns r.fields = some row ∧ r.ofRow row = x := by
  rw [← ofFields_eq_some, ← ofTree_fields hr, toOption_eq_some]

end Record

end Intercept.Json
