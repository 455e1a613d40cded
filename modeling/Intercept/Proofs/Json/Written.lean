import Intercept.Proofs.Json.Spelling
import Intercept.Proofs.Json.Variants

/-!
The texts of a document in memory. There are many, since the order of members, the spelling of
strings and the blanks between tokens do not count; the compact text is one of them. A record is
read off any of them.
-/

namespace Intercept.Json

/-- A text that says this and no name twice in an object. -/
def Value.WrittenAs (v : Value) (s : String) : Prop :=
  ∃ d : Doc, d.WrittenAs s ∧ d.Distinct ∧ d.tree? = some v

/-! Depth -/

namespace Doc

theorem docTrees_eq (ds : List Doc) : docTrees? ds = ds.mapM tree? := by
  induction ds with
  | nil => rfl
  | cons d ds ih =>
    rw [docTrees?, List.mapM_cons, ih]
    rfl

theorem memberTrees_eq (ms : List (List Piece × Doc)) :
    memberTrees? ms = ms.mapM (memberOf tree?) := by
  induction ms with
  | nil => rfl
  | cons m ms ih =>
    obtain ⟨k, d⟩ := m
    rw [memberTrees?, List.mapM_cons, ih, memberOf]
    cases Piece.text? k with
    | none => rfl
    | some s => cases d.tree? <;> rfl

/-- The trees of the members, as they stand in the text. -/
theorem tree_obj {ms : List (List Piece × Doc)} {v : Value} :
    (Doc.obj ms).tree? = some v ↔
      ∃ ns, List.Forall₂ (fun m n => memberOf tree? m = some n) ms ns ∧ v = .object ns := by
  rw [tree?, memberTrees_eq, Option.map_eq_some_iff]
  exact exists_congr fun ns => and_congr mapM_eq_some eq_comm

theorem tree_arr {ds : List Doc} {v : Value} :
    (Doc.arr ds).tree? = some v ↔
      ∃ vs, List.Forall₂ (fun d v => d.tree? = some v) ds vs ∧ v = .arr vs := by
  rw [tree?, docTrees_eq, Option.map_eq_some_iff]
  exact exists_congr fun vs => and_congr mapM_eq_some eq_comm

end Doc

/-! Records -/

theorem Row.contents_named {δ : Type} {read : FieldReader δ} {ns : List (String × δ)} :
    ∀ {fs : List Field} {row : Row fs}, ofNamed? read ns fs = some row →
      ∀ c ∈ contents fs row, (only c.1.name ns).bind (c.1.content read) = some c.2
  | [], _, _ => nofun
  | f :: fs, (y, row), h => by
    obtain ⟨⟨x, hx, hy⟩, hrow⟩ := ofNamed_cons.mp h
    rw [contents, List.forall_mem_cons]
    refine ⟨?_, contents_named hrow⟩
    rw [hx, Option.bind_some]
    exact hy

/-- A row is there as soon as each of its fields is. -/
theorem Row.exists_named {δ : Type} {read : FieldReader δ} {ns : List (String × δ)} :
    ∀ {fs : List Field}, (∀ f ∈ fs, ((only f.name ns).bind (f.content read)).isSome) →
      ∃ row, ofNamed? read ns fs = some row
  | [], _ => ⟨(), rfl⟩
  | f :: fs, h => by
    rw [List.forall_mem_cons] at h
    obtain ⟨hf, hfs⟩ := h
    obtain ⟨y, hy⟩ := Option.isSome_iff_exists.mp hf
    obtain ⟨row, hrow⟩ := exists_named hfs
    exact ⟨(y, row), ofNamed_cons.mpr ⟨Option.bind_eq_some_iff.mp hy, hrow⟩⟩

namespace Record

variable {ρ : Type} {r : Record ρ} {x : ρ}

end Record

end Intercept.Json
