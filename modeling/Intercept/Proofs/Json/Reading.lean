import Intercept.Json.Reader
import Intercept.Proofs.Json.Lexing
import Mathlib.Data.List.DropRight

/-!
Documents are read for what their tokens say, whatever blanks stand between them. A document is
read if it nests no deeper than is admitted, its numbers are in range and its strings are of whole
characters; a document that is passed over has to be nothing but a document.
-/

namespace Intercept.Json

theorem ok_of_toOption {ε α : Type} {x : Except ε α} {a : α} (h : x.toOption = some a) :
    x = .ok a := by
  cases x with
  | ok b => rw [Option.some.inj h]
  | error e => cases h

theorem toOption_eq_some {ε α : Type} {x : Except ε α} {a : α} :
    x.toOption = some a ↔ x = .ok a :=
  ⟨ok_of_toOption, congrArg Except.toOption⟩

theorem error_of_toOption {ε α : Type} {x : Except ε α} (h : x.toOption = none) :
    ∃ e, x = .error e := by
  cases x with
  | ok b => cases h
  | error e => exact ⟨e, rfl⟩

/-- What holds of all scalars, and of a container if it holds of all in it, holds of all
documents. -/
theorem Doc.induction {P : Doc → Prop} (null : P .null) (bool : ∀ b, P (.bool b))
    (number : ∀ n, P (.number n)) (str : ∀ ps, P (.str ps))
    (arr : ∀ ds : List Doc, (∀ d ∈ ds, P d) → P (.arr ds))
    (obj : ∀ ms : List (List Piece × Doc), (∀ m ∈ ms, P m.2) → P (.obj ms)) : ∀ d, P d
  | .null => null
  | .bool b => bool b
  | .number n => number n
  | .str ps => str ps
  | .arr ds => arr ds fun d _ => Doc.induction null bool number str arr obj d
  | .obj ms => obj ms fun m _ => Doc.induction null bool number str arr obj m.2
termination_by d => sizeOf d
decreasing_by
  · have hmem := List.sizeOf_lt_of_mem ‹_›
    rw [Doc.arr.sizeOf_spec]
    omega
  · have hmem := List.sizeOf_lt_of_mem ‹_›
    rw [Doc.obj.sizeOf_spec]
    cases m
    rw [Prod.mk.sizeOf_spec] at hmem
    dsimp only
    omega

/-! Blanks and tokens -/

theorem skipSpace_blanks {bs : List Char} (h : Blanks bs) (cs : List Char) :
    skipSpace (bs ++ cs) = skipSpace cs :=
  List.dropWhile_append_of_pos h

theorem skipSpace_skipSpace (cs : List Char) : skipSpace (skipSpace cs) = skipSpace cs :=
  List.dropWhile_idempotent isSpace cs

theorem blanks_skipSpace (cs : List Char) :
    ∃ bs, Blanks bs ∧ cs = bs ++ skipSpace cs :=
  ⟨cs.takeWhile isSpace, fun _ => List.mem_takeWhile_imp, List.takeWhile_append_dropWhile.symm⟩

def Solid (t : List Char) : Prop := ∃ c cs, t = c :: cs ∧ isSpace c = false

theorem solid_cons {c : Char} (hc : isSpace c = false) (cs : List Char) : Solid (c :: cs) :=
  ⟨c, cs, rfl, hc⟩

theorem skipSpace_solid {t : List Char} (h : Solid t) (cs : List Char) :
    skipSpace (t ++ cs) = t ++ cs := by
  obtain ⟨c, ds, rfl, hc⟩ := h
  exact skipSpace_cons _ hc

theorem spaced_cons {t : List Char} {ts : List (List Char)} {cs : List Char} (ht : Solid t)
    (h : Spaced (t :: ts) cs) : ∃ rest, Spaced ts rest ∧ skipSpace cs = t ++ rest := by
  obtain ⟨bs, rest, hbs, hrest, rfl⟩ := h
  exact ⟨rest, hrest, (skipSpace_blanks hbs _).trans (skipSpace_solid ht rest)⟩

theorem spaced_sign {c : Char} {ts : List (List Char)} {cs : List Char} (hc : isSpace c = false)
    (h : Spaced ([c] :: ts) cs) : ∃ rest, Spaced ts rest ∧ skipSpace cs = c :: rest :=
  spaced_cons (solid_cons hc []) h

theorem spaced_of_cons {t : List Char} {ts : List (List Char)} {rest : List Char}
    (h : Spaced ts rest) : Spaced (t :: ts) (t ++ rest) :=
  ⟨[], rest, List.forall_mem_nil _, h, rfl⟩

/-- The tokens with the same blanks in front of each. -/
theorem spaced_spread {bs : List Char} (h : Blanks bs) (ts : List (List Char)) :
    Spaced ts (ts.flatMap (bs ++ ·)) := by
  induction ts with
  | nil => exact List.forall_mem_nil _
  | cons t ts ih => exact ⟨bs, ts.flatMap (bs ++ ·), h, ih, List.append_assoc _ _ _⟩

/-- Behind a document there is the end, or a sign that parts it from others. -/
def Follows (ts : List (List Char)) : Prop :=
  ∀ t ∈ ts.head?, t = [','] ∨ t = [']'] ∨ t = ['\x7d']

theorem follows_nil : Follows [] := fun _ h => nomatch h

theorem ends_of_space {c : Char} (hc : isSpace c = true) (cs : List Char) : Ends (c :: cs) := by
  rw [isSpace, Bool.or_eq_true, Bool.or_eq_true, Bool.or_eq_true, beq_iff_eq, beq_iff_eq,
    beq_iff_eq, beq_iff_eq] at hc
  rcases hc with ((rfl | rfl) | rfl) | rfl <;> exact ends_cons cs rfl (by decide) rfl

theorem ends_blanks {bs cs : List Char} (h : Blanks bs) (hcs : Ends cs) : Ends (bs ++ cs) := by
  cases bs with
  | nil => exact hcs
  | cons b bs => exact ends_of_space (h b List.mem_cons_self) _

theorem ends_spaced {ts : List (List Char)} (ht : Follows ts) {cs : List Char}
    (h : Spaced ts cs) : Ends cs := by
  cases ts with
  | nil =>
    have hend : Ends (cs ++ []) := ends_blanks h fun _ h => nomatch h
    rwa [List.append_nil] at hend
  | cons t ts =>
    obtain ⟨bs, rest, hbs, -, rfl⟩ := h
    refine ends_blanks hbs ?_
    rcases ht t rfl with rfl | rfl | rfl
    · exact ends_comma rest
    · exact ends_bracket rest
    · exact ends_brace rest

theorem whole_head {w : List Char} (h : IsWhole w) : ∃ c cs, w = c :: cs ∧ c.isDigit = true := by
  cases h with
  | zero => exact ⟨'0', [], rfl, rfl⟩
  | digits hc => exact ⟨_, _, rfl, hc⟩

theorem number_token (n : Number) :
    ∃ c cs, n.chars = c :: cs ∧ isSpace c = false ∧ c ≠ ']' := by
  obtain ⟨c, cs, hw, hc⟩ := whole_head n.isWhole
  rw [Number.chars, Number.unsigned, hw]
  cases n.negative with
  | true => exact ⟨'-', _, rfl, rfl, by decide⟩
  | false => exact ⟨c, _, rfl, isSpace_digit hc, digit_ne hc rfl⟩

namespace Doc

def inner : Doc → List (List Char)
  | .arr ds => itemTokens true ds
  | .obj ms => memberTokens true ms
  | _ => []

/-- A scalar if it has a value, or else which container it is. -/
def head? : Doc → Option Head
  | .null => some .null
  | .bool b => some (.bool b)
  | .number n => n.head?
  | .str ps => (Piece.text? ps).map .str
  | .arr _ => some .list
  | .obj _ => some .object

theorem tokens_eq (d : Doc) :
    ∃ c cs, d.tokens = (c :: cs) :: d.inner ∧ isSpace c = false ∧ c ≠ ']' := by
  cases d with
  | null => exact ⟨'n', _, rfl, rfl, by decide⟩
  | bool b => cases b <;> exact ⟨_, _, rfl, rfl, by decide⟩
  | number n =>
    obtain ⟨c, cs, hcs, hc⟩ := number_token n
    exact ⟨c, cs, by rw [tokens, hcs]; rfl, hc⟩
  | str ps => exact ⟨'"', _, rfl, rfl, by decide⟩
  | arr ds => exact ⟨'[', _, rfl, rfl, by decide⟩
  | obj ms => exact ⟨'\x7b', _, rfl, rfl, by decide⟩

theorem inner_scalar {d : Doc} (hd : d.depth = 0) : d.inner = [] := by
  cases d with
  | arr ds => cases hd
  | obj ms => cases hd
  | _ => rfl

theorem head_scalar {d : Doc} (hd : d.depth = 0) :
    d.head? ≠ some .list ∧ d.head? ≠ some .object := by
  cases d with
  | null => exact ⟨nofun, nofun⟩
  | bool b => exact ⟨nofun, nofun⟩
  | number n =>
    rw [head?]
    constructor <;>
      · intro h
        rcases numeric_head h with ⟨k, hk⟩ | ⟨y, hy⟩
        · cases hk
        · cases hy
  | str ps =>
    rw [head?]
    cases Piece.text? ps <;> exact ⟨nofun, nofun⟩
  | arr ds => cases hd
  | obj ms => cases hd

end Doc

/-! Heads -/

theorem head_skipSpace (cs : List Char) : head (skipSpace cs) = head cs := by
  rw [head, head, skipSpace_skipSpace]

theorem head_number (n : Number) {rest : List Char} (hr : Ends rest) :
    (head (n.chars ++ rest)).toOption = n.head?.map (·, rest) := by
  rw [← number_unsigned n hr, Number.chars]
  cases hneg : n.negative with
  | true => rfl
  | false =>
    obtain ⟨c, cs, hw, hc⟩ := whole_head n.isWhole
    rw [Number.unsigned, hw]
    exact congrArg Except.toOption (head_digit _ hc)

theorem head_string (ps : List Piece) (rest : List Char) :
    (head (Piece.quoted ps ++ rest)).toOption =
      (Piece.text? ps).map fun s => (.str s, rest) := by
  have hhead (cs : List Char) :
      (head ('"' :: cs)).toOption = (string cs).toOption.map fun r => (.str r.1, r.2) := by
    change (string cs >>= fun r => Except.ok (Head.str r.1, r.2)).toOption = _
    cases string cs <;> rfl
  rw [Piece.quoted, List.cons_append, List.append_assoc, List.singleton_append, hhead,
    Piece.string_spelt]
  cases Piece.text? ps <;> rfl

/-- A scalar is read, or a container opened. -/
theorem head_doc (d : Doc) {more : List (List Char)} {cs : List Char} (hm : Follows more)
    (h : Spaced (d.tokens ++ more) cs) :
    ∃ rest, Spaced (d.inner ++ more) rest ∧ (head cs).toOption = d.head?.map (·, rest) := by
  obtain ⟨c, t, htokens, hc, -⟩ := d.tokens_eq
  have hcs := h
  rw [htokens] at hcs
  obtain ⟨rest, hrest, hskip⟩ := spaced_cons (solid_cons hc t) hcs
  refine ⟨rest, hrest, ?_⟩
  rw [← head_skipSpace, hskip]
  cases d with
  | null =>
    obtain ⟨rfl, rfl⟩ := List.cons.inj (List.cons.inj htokens).1
    rfl
  | bool b =>
    cases b <;>
      · obtain ⟨rfl, rfl⟩ := List.cons.inj (List.cons.inj htokens).1
        rfl
  | number n =>
    rw [← (List.cons.inj htokens).1]
    exact head_number n (ends_spaced hm hrest)
  | str ps =>
    rw [← (List.cons.inj htokens).1, head_string, Doc.head?, Option.map_map]
    rfl
  | arr ds =>
    obtain ⟨rfl, rfl⟩ := List.cons.inj (List.cons.inj htokens).1
    rfl
  | obj ms =>
    obtain ⟨rfl, rfl⟩ := List.cons.inj (List.cons.inj htokens).1
    rfl

/-! Items and members -/

variable {α : Type} {item : List Char → Except Flaw (α × List Char)}

/-- The reader takes these tokens and makes of them what `out` is, or refuses them. -/
def Takes (item : List Char → Except Flaw (α × List Char)) (ts : List (List Char))
    (out : Option α) : Prop :=
  ∀ more cs, Follows more → Spaced (ts ++ more) cs →
    ∃ rest, Spaced more rest ∧ (item cs).toOption = out.map (·, rest)

theorem follows_items (ds : List Doc) (more : List (List Char)) :
    Follows (itemTokens false ds ++ more) := by
  intro t ht
  cases ds with
  | nil => exact .inr (.inl (Option.some.inj ht).symm)
  | cons d ds => exact .inl (Option.some.inj ht).symm

theorem follows_members (ms : List (List Piece × Doc)) (more : List (List Char)) :
    Follows (memberTokens false ms ++ more) := by
  intro t ht
  cases ms with
  | nil => exact .inr (.inr (Option.some.inj ht).symm)
  | cons m ms => exact .inl (Option.some.inj ht).symm

theorem moreItems_end (first : Bool) {more : List (List Char)} {cs : List Char}
    (h : Spaced ([']'] :: more) cs) :
    ∃ rest, Spaced ([']'] :: more) rest ∧ moreItems first cs = .ok (false, rest) := by
  obtain ⟨rest, hrest, hskip⟩ := spaced_sign rfl h
  exact ⟨']' :: rest, spaced_of_cons hrest, by rw [moreItems, hskip]; rfl⟩

theorem moreItems_doc (d : Doc) (first : Bool) {more : List (List Char)} {cs : List Char}
    (h : Spaced (separator first ++ (d.tokens ++ more)) cs) :
    ∃ rest, Spaced (d.tokens ++ more) rest ∧ moreItems first cs = .ok (true, rest) := by
  obtain ⟨c, t, htokens, hc, hne⟩ := d.tokens_eq
  rw [htokens] at h ⊢
  cases first with
  | true =>
    obtain ⟨rest, hrest, hskip⟩ := spaced_cons (solid_cons hc t) h
    refine ⟨(c :: t) ++ rest, spaced_of_cons hrest, ?_⟩
    rw [moreItems, hskip]
    exact if_neg hne
  | false =>
    obtain ⟨cs', hcs', hcomma⟩ := spaced_sign rfl h
    obtain ⟨rest, hrest, hskip⟩ := spaced_cons (solid_cons hc t) hcs'
    refine ⟨(c :: t) ++ rest, spaced_of_cons hrest, ?_⟩
    simp only [moreItems, hcomma, hskip, List.cons_append, Char.reduceEq, Bool.false_eq_true,
      if_false, if_true, if_neg hne]

theorem endItems_doc {more : List (List Char)} {cs : List Char} (h : Spaced ([']'] :: more) cs) :
    ∃ rest, Spaced more rest ∧ endItems cs = .ok rest := by
  obtain ⟨rest, hrest, hskip⟩ := spaced_sign rfl h
  exact ⟨rest, hrest, by rw [endItems, hskip]; rfl⟩

theorem items_doc {out : Doc → Option α} {ds : List Doc}
    (hi : ∀ d ∈ ds, Takes item d.tokens (out d)) {fuel : Nat} (hf : ds.length < fuel)
    (first : Bool) {more : List (List Char)} {cs : List Char}
    (h : Spaced (itemTokens first ds ++ more) cs) :
    ∃ rest, Spaced ([']'] :: more) rest ∧
      (items item fuel first cs).toOption = (ds.mapM out).map (·, rest) := by
  induction ds generalizing fuel first cs with
  | nil =>
    obtain ⟨k, rfl⟩ := Nat.exists_eq_succ_of_ne_zero (Nat.ne_zero_of_lt hf)
    obtain ⟨rest, hrest, hmore⟩ := moreItems_end first h
    refine ⟨rest, hrest, ?_⟩
    rw [items, hmore]
    rfl
  | cons d ds ih =>
    obtain ⟨k, rfl⟩ := Nat.exists_eq_succ_of_ne_zero (Nat.ne_zero_of_lt hf)
    rw [itemTokens, List.append_assoc, List.append_assoc] at h
    obtain ⟨cs₁, hcs₁, hmore⟩ := moreItems_doc d first h
    obtain ⟨cs₂, hcs₂, hitem⟩ :=
      hi d List.mem_cons_self _ _ (follows_items ds more) hcs₁
    obtain ⟨rest, hrest, hitems⟩ := ih (fun e he => hi e (List.mem_cons_of_mem d he))
      (Nat.lt_of_succ_lt_succ hf) false hcs₂
    refine ⟨rest, hrest, ?_⟩
    rw [items, hmore, ok_bind]
    dsimp only
    rw [if_pos rfl, toOption_bind, hitem, List.mapM_cons]
    cases out d with
    | none => rfl
    | some x =>
      dsimp only [Option.map_some, Option.bind_some]
      rw [toOption_bind, hitems]
      cases ds.mapM out <;> rfl

theorem nextName_end (first : Bool) {more : List (List Char)} {cs : List Char}
    (h : Spaced (['\x7d'] :: more) cs) :
    ∃ rest, Spaced (['\x7d'] :: more) rest ∧ nextName first cs = .ok (none, rest) := by
  obtain ⟨rest, hrest, hskip⟩ := spaced_sign rfl h
  exact ⟨'\x7d' :: rest, spaced_of_cons hrest, by rw [nextName, hskip]; rfl⟩

theorem name_quoted (ps : List Piece) (rest : List Char) :
    (name (Piece.quoted ps ++ rest)).toOption = (Piece.text? ps).map fun s => (some s, rest) := by
  have hname (cs : List Char) :
      (name ('"' :: cs)).toOption = (string cs).toOption.map fun r => (some r.1, r.2) := by
    change (string cs >>= fun r => Except.ok (some r.1, r.2)).toOption = _
    cases string cs <;> rfl
  rw [Piece.quoted, List.cons_append, List.append_assoc, List.singleton_append, hname,
    Piece.string_spelt]
  cases Piece.text? ps <;> rfl

theorem nextName_doc (k : List Piece) (first : Bool) {more : List (List Char)} {cs : List Char}
    (h : Spaced (separator first ++ Piece.quoted k :: more) cs) :
    ∃ rest, Spaced more rest ∧
      (nextName first cs).toOption = (Piece.text? k).map fun s => (some s, rest) := by
  have hquote : Solid (Piece.quoted k) := solid_cons rfl _
  have hname (rest : List Char) :
      name ('"' :: (k.flatMap Piece.chars ++ ['"'] ++ rest)) = name (Piece.quoted k ++ rest) := rfl
  cases first with
  | true =>
    obtain ⟨rest, hrest, hskip⟩ := spaced_cons hquote h
    refine ⟨rest, hrest, ?_⟩
    rw [← name_quoted]
    simp only [nextName, hskip, Piece.quoted, List.cons_append, Char.reduceEq, if_false, if_true]
  | false =>
    obtain ⟨cs', hcs', hcomma⟩ := spaced_sign rfl h
    obtain ⟨rest, hrest, hskip⟩ := spaced_cons hquote hcs'
    refine ⟨rest, hrest, ?_⟩
    rw [← name_quoted]
    simp only [nextName, hcomma, hskip, Piece.quoted, List.cons_append, Char.reduceEq,
      Bool.false_eq_true, if_false, if_true]

theorem colon_doc {more : List (List Char)} {cs : List Char} (h : Spaced ([':'] :: more) cs) :
    ∃ rest, Spaced more rest ∧ colon cs = .ok rest := by
  obtain ⟨rest, hrest, hskip⟩ := spaced_sign rfl h
  exact ⟨rest, hrest, by rw [colon, hskip]; rfl⟩

theorem endMembers_doc {more : List (List Char)} {cs : List Char}
    (h : Spaced (['\x7d'] :: more) cs) :
    ∃ rest, Spaced more rest ∧ endMembers cs = .ok rest := by
  obtain ⟨rest, hrest, hskip⟩ := spaced_sign rfl h
  exact ⟨rest, hrest, by rw [endMembers, hskip]; rfl⟩

def memberOf (out : Doc → Option α) (m : List Piece × Doc) : Option (String × α) := do
  let name ← Piece.text? m.1
  let x ← out m.2
  some (name, x)

theorem members_doc {out : Doc → Option α} {ms : List (List Piece × Doc)}
    (hi : ∀ m ∈ ms, Takes item m.2.tokens (out m.2)) {fuel : Nat} (hf : ms.length < fuel)
    (first : Bool) {more : List (List Char)} {cs : List Char}
    (h : Spaced (memberTokens first ms ++ more) cs) :
    ∃ rest, Spaced (['\x7d'] :: more) rest ∧
      (members item fuel first cs).toOption = (ms.mapM (memberOf out)).map (·, rest) := by
  induction ms generalizing fuel first cs with
  | nil =>
    obtain ⟨k, rfl⟩ := Nat.exists_eq_succ_of_ne_zero (Nat.ne_zero_of_lt hf)
    obtain ⟨rest, hrest, hname⟩ := nextName_end first h
    refine ⟨rest, hrest, ?_⟩
    rw [members, hname]
    rfl
  | cons m ms ih =>
    obtain ⟨k, d⟩ := m
    obtain ⟨j, rfl⟩ := Nat.exists_eq_succ_of_ne_zero (Nat.ne_zero_of_lt hf)
    rw [memberTokens, List.append_assoc, List.cons_append, List.cons_append,
      List.append_assoc] at h
    obtain ⟨cs₁, hcs₁, hname⟩ := nextName_doc k first h
    obtain ⟨cs₂, hcs₂, hcolon⟩ := colon_doc hcs₁
    obtain ⟨cs₃, hcs₃, hitem⟩ :=
      hi (k, d) List.mem_cons_self _ _ (follows_members ms more) hcs₂
    obtain ⟨rest, hrest, hmembers⟩ := ih (fun e he => hi e (List.mem_cons_of_mem _ he))
      (Nat.lt_of_succ_lt_succ hf) false hcs₃
    refine ⟨rest, hrest, ?_⟩
    rw [members, toOption_bind, hname, List.mapM_cons, memberOf]
    cases Piece.text? k with
    | none => rfl
    | some s =>
      dsimp only [Option.map_some, Option.bind_some]
      rw [hcolon, ok_bind, toOption_bind, hitem]
      cases out d with
      | none => rfl
      | some x =>
        dsimp only [Option.map_some, Option.bind_some]
        rw [toOption_bind, hmembers]
        cases ms.mapM (memberOf out) <;> rfl

/-! Whole containers -/

theorem spaced_drop (ts : List (List Char)) {us : List (List Char)} {cs : List Char}
    (h : Spaced (ts ++ us) cs) : ∃ rest, Spaced us rest ∧ rest.length ≤ cs.length := by
  induction ts generalizing cs with
  | nil => exact ⟨cs, h, Nat.le_refl _⟩
  | cons t ts ih =>
    obtain ⟨bs, rest, -, hrest, rfl⟩ := h
    obtain ⟨rest', hrest', hle⟩ := ih hrest
    refine ⟨rest', hrest', ?_⟩
    rw [List.length_append, List.length_append]
    omega

/-- Tokens behind another one are behind at least one character. -/
theorem spaced_behind (ts : List (List Char)) {c : Char} {t : List Char}
    {us : List (List Char)} {cs : List Char} (h : Spaced (((c :: t) :: ts) ++ us) cs) :
    ∃ rest, Spaced us rest ∧ rest.length < cs.length := by
  obtain ⟨bs, rest, -, hrest, rfl⟩ := h
  obtain ⟨rest', hrest', hle⟩ := spaced_drop ts hrest
  refine ⟨rest', hrest', ?_⟩
  rw [List.length_append, List.length_append, List.length_cons]
  omega

theorem length_le_items {ds : List Doc} {first : Bool} {more : List (List Char)} {cs : List Char}
    (h : Spaced (itemTokens first ds ++ more) cs) : ds.length ≤ cs.length := by
  induction ds generalizing first cs with
  | nil => exact Nat.zero_le _
  | cons d ds ih =>
    rw [itemTokens, List.append_assoc, List.append_assoc] at h
    obtain ⟨cs', hcs', hle⟩ := spaced_drop _ h
    obtain ⟨c, t, htokens, -⟩ := d.tokens_eq
    rw [htokens] at hcs'
    obtain ⟨rest, hrest, hlt⟩ := spaced_behind _ hcs'
    exact Nat.le_trans (Nat.succ_le_of_lt (Nat.lt_of_le_of_lt (ih hrest) hlt)) hle

theorem length_le_members {ms : List (List Piece × Doc)} {first : Bool}
    {more : List (List Char)} {cs : List Char} (h : Spaced (memberTokens first ms ++ more) cs) :
    ms.length ≤ cs.length := by
  induction ms generalizing first cs with
  | nil => exact Nat.zero_le _
  | cons m ms ih =>
    obtain ⟨k, d⟩ := m
    rw [memberTokens, List.append_assoc] at h
    obtain ⟨cs', hcs', hle⟩ := spaced_drop _ h
    rw [← List.cons_append, ← List.cons_append, List.append_assoc] at hcs'
    obtain ⟨rest, hrest, hlt⟩ := spaced_behind ([':'] :: d.tokens) hcs'
    exact Nat.le_trans (Nat.succ_le_of_lt (Nat.lt_of_le_of_lt (ih hrest) hlt)) hle

theorem wholeList_doc {out : Doc → Option α} {ds : List Doc}
    (hi : ∀ d ∈ ds, Takes item d.tokens (out d)) {more : List (List Char)} {cs : List Char}
    (h : Spaced (itemTokens true ds ++ more) cs) :
    ∃ rest, Spaced more rest ∧
      (wholeList item cs).toOption = (ds.mapM out).map (·, rest) := by
  obtain ⟨cs', hcs', hitems⟩ := items_doc hi (Nat.lt_succ_of_le (length_le_items h)) true h
  obtain ⟨rest, hrest, hend⟩ := endItems_doc hcs'
  refine ⟨rest, hrest, ?_⟩
  rw [wholeList, toOption_bind, hitems]
  cases ds.mapM out with
  | none => rfl
  | some xs =>
    dsimp only [Option.map_some, Option.bind_some]
    rw [hend]
    rfl

theorem wholeObject_doc {out : Doc → Option α} {ms : List (List Piece × Doc)}
    (hi : ∀ m ∈ ms, Takes item m.2.tokens (out m.2)) {more : List (List Char)} {cs : List Char}
    (h : Spaced (memberTokens true ms ++ more) cs) :
    ∃ rest, Spaced more rest ∧
      (wholeObject item cs).toOption = (ms.mapM (memberOf out)).map (·, rest) := by
  obtain ⟨cs', hcs', hmembers⟩ := members_doc hi (Nat.lt_succ_of_le (length_le_members h)) true h
  obtain ⟨rest, hrest, hend⟩ := endMembers_doc hcs'
  refine ⟨rest, hrest, ?_⟩
  rw [wholeObject, toOption_bind, hmembers]
  cases ms.mapM (memberOf out) with
  | none => rfl
  | some xs =>
    dsimp only [Option.map_some, Option.bind_some]
    rw [hend]
    rfl

/-! Whole documents -/

namespace Doc

def upTo (levels : Nat) (d : Doc) : Option Value := if d.depth ≤ levels then d.tree? else none

theorem mapM_items (levels : Nat) (ds : List Doc) :
    ds.mapM (upTo levels) = if docDepth ds ≤ levels then docTrees? ds else none := by
  induction ds with
  | nil => rfl
  | cons d ds ih =>
    rw [List.mapM_cons, ih, upTo, docDepth, docTrees?]
    by_cases hd : d.depth ≤ levels
    · by_cases hds : docDepth ds ≤ levels
      · rw [if_pos hd, if_pos hds, if_pos (Nat.max_le.mpr ⟨hd, hds⟩)]
        rfl
      · rw [if_pos hd, if_neg hds, if_neg fun h => hds (Nat.max_le.mp h).2]
        cases d.tree? <;> rfl
    · rw [if_neg hd, if_neg fun h => hd (Nat.max_le.mp h).1]
      rfl

theorem mapM_members (levels : Nat) (ms : List (List Piece × Doc)) :
    ms.mapM (memberOf (upTo levels)) =
      if memberDepth ms ≤ levels then memberTrees? ms else none := by
  induction ms with
  | nil => rfl
  | cons m ms ih =>
    obtain ⟨k, d⟩ := m
    rw [List.mapM_cons, ih, memberOf, upTo, memberDepth, memberTrees?]
    by_cases hd : d.depth ≤ levels
    · by_cases hms : memberDepth ms ≤ levels
      · rw [if_pos hd, if_pos hms, if_pos (Nat.max_le.mpr ⟨hd, hms⟩)]
        cases Piece.text? k with
        | none => rfl
        | some s => cases d.tree? <;> rfl
      · rw [if_pos hd, if_neg hms, if_neg fun h => hms (Nat.max_le.mp h).2]
        cases Piece.text? k with
        | none => rfl
        | some s => cases d.tree? <;> rfl
    · rw [if_neg hd, if_neg fun h => hd (Nat.max_le.mp h).1]
      cases Piece.text? k <;> rfl

end Doc

theorem value_of_error {levels : Nat} {cs : List Char} (h : (head cs).toOption = none) :
    (value levels cs).toOption = none := by
  obtain ⟨e, he⟩ := error_of_toOption h
  rw [value.eq_def, he]
  rfl

/-- A scalar is read as what its head is. -/
theorem value_of_head {levels : Nat} {cs rest : List Char} {d : Doc}
    (hh : (head cs).toOption = d.head?.map (·, rest)) (hd : d.depth = 0) :
    (value levels cs).toOption = (d.upTo levels).map (·, rest) := by
  rw [Doc.upTo, if_pos (hd ▸ Nat.zero_le levels)]
  cases d with
  | null => rw [value.eq_def, ok_of_toOption hh]; rfl
  | bool b => rw [value.eq_def, ok_of_toOption hh]; rfl
  | number n =>
    rw [Doc.head?] at hh
    rw [Doc.tree?, Number.tree?]
    cases hn : n.head? with
    | none =>
      rw [hn] at hh
      exact value_of_error hh
    | some h =>
      rw [hn] at hh
      rcases numeric_head hn with ⟨k, rfl⟩ | ⟨y, rfl⟩ <;>
        rw [value.eq_def, ok_of_toOption hh] <;> rfl
  | str ps =>
    rw [Doc.head?] at hh
    rw [Doc.tree?]
    cases hs : Piece.text? ps with
    | none =>
      rw [hs] at hh
      exact value_of_error hh
    | some s =>
      rw [hs] at hh
      rw [value.eq_def, ok_of_toOption hh]
      rfl
  | arr ds => cases hd
  | obj ms => cases hd

/-- A document is read, with what follows it left over, unless it is too deep or has parts that
nothing can hold. -/
theorem value_doc (d : Doc) (levels : Nat) : Takes (value levels) d.tokens (d.upTo levels) := by
  induction d using Doc.induction generalizing levels with
  | null | bool b | number n | str ps =>
    intro more cs hm h
    obtain ⟨rest, hrest, hh⟩ := head_doc _ hm h
    exact ⟨rest, hrest, value_of_head hh rfl⟩
  | arr ds ih =>
    intro more cs hm h
    obtain ⟨cs', hcs', hh⟩ := head_doc (.arr ds) hm h
    rw [value.eq_def, ok_of_toOption hh, Doc.upTo, Doc.depth, Doc.tree?]
    cases levels with
    | zero =>
      obtain ⟨rest, hrest, -⟩ := spaced_drop _ hcs'
      exact ⟨rest, hrest, rfl⟩
    | succ levels =>
      obtain ⟨rest, hrest, hlist⟩ := wholeList_doc (fun d hd => ih d hd levels) hcs'
      refine ⟨rest, hrest, ?_⟩
      dsimp only
      rw [toOption_bind, hlist, Doc.mapM_items]
      by_cases hd : docDepth ds ≤ levels
      · rw [if_pos hd, if_pos (Nat.succ_le_succ hd)]
        cases docTrees? ds <;> rfl
      · rw [if_neg hd, if_neg fun h => hd (Nat.le_of_succ_le_succ h)]
        rfl
  | obj ms ih =>
    intro more cs hm h
    obtain ⟨cs', hcs', hh⟩ := head_doc (.obj ms) hm h
    rw [value.eq_def, ok_of_toOption hh, Doc.upTo, Doc.depth, Doc.tree?]
    cases levels with
    | zero =>
      obtain ⟨rest, hrest, -⟩ := spaced_drop _ hcs'
      exact ⟨rest, hrest, rfl⟩
    | succ levels =>
      obtain ⟨rest, hrest, hobject⟩ := wholeObject_doc (fun m hm => ih m hm levels) hcs'
      refine ⟨rest, hrest, ?_⟩
      dsimp only
      rw [toOption_bind, hobject, Doc.mapM_members]
      by_cases hd : memberDepth ms ≤ levels
      · rw [if_pos hd, if_pos (Nat.succ_le_succ hd)]
        cases memberTrees? ms <;> rfl
      · rw [if_neg hd, if_neg fun h => hd (Nat.le_of_succ_le_succ h)]
        rfl

end Intercept.Json
