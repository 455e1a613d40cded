import Intercept.Proofs.Json.Reading

/-!
Every document is passed over, however deep it nests and whatever its numbers and strings are. The
scan comes to the end of a value with the same containers open that were open before it, and takes
at least one character in each round.
-/

namespace Intercept.Json

namespace Skip

/-- The scan comes from one state to the other in as many rounds as it takes characters, or less. -/
def Reaches (s t : State) : Prop :=
  ∃ k, k + t.rest.length ≤ s.rest.length ∧ ∀ fuel, run (fuel + k) s = run fuel t

theorem Reaches.trans {s t u : State} (h : Reaches s t) (h' : Reaches t u) : Reaches s u := by
  obtain ⟨k, hk, hrun⟩ := h
  obtain ⟨j, hj, hrun'⟩ := h'
  refine ⟨j + k, by omega, fun fuel => ?_⟩
  rw [← Nat.add_assoc, hrun, hrun']

theorem reaches_before {frames : List Frame} {cs : List Char} {s : State}
    (h : before frames cs = .ok s) (hlt : s.rest.length < cs.length) :
    Reaches ⟨false, frames, cs⟩ s := by
  refine ⟨1, by rw [Nat.add_comm]; exact hlt, fun fuel => ?_⟩
  rw [run.eq_def]
  dsimp only
  rw [if_neg Bool.false_ne_true, h]

theorem reaches_leave {frame : Frame} {outer : List Frame} {cs : List Char} {s : State}
    (h : leave frame outer cs = .ok s) (hlt : s.rest.length < cs.length) :
    Reaches ⟨true, frame :: outer, cs⟩ s := by
  refine ⟨1, by rw [Nat.add_comm]; exact hlt, fun fuel => ?_⟩
  rw [run.eq_def]
  dsimp only
  rw [if_pos rfl, h]

theorem length_of_skipSpace {t cs rest : List Char} (h : skipSpace cs = t ++ rest) :
    rest.length + t.length ≤ cs.length := by
  have hle := (List.dropWhile_sublist isSpace (l := cs)).length_le
  rw [← skipSpace, h, List.length_append] at hle
  omega

theorem before_skipSpace (frames : List Frame) (cs : List Char) :
    before frames (skipSpace cs) = before frames cs := by
  rw [before, before, skipSpace_skipSpace]

theorem before_digit {c : Char} (hc : c.isDigit = true) (frames : List Frame) (cs : List Char) :
    before frames (c :: cs) = (number (c :: cs)).map fun rest => ⟨true, frames, rest⟩ := by
  have hne {d : Char} (hd : d.isDigit = false) : c ≠ d := digit_ne hc hd
  simp only [before, skipSpace_cons cs (isSpace_digit hc), if_neg (hne (d := '[') rfl),
    if_neg (hne (d := '\x7b') rfl), if_neg (hne (d := 'n') rfl), if_neg (hne (d := 't') rfl),
    if_neg (hne (d := 'f') rfl), if_neg (hne (d := '-') rfl), if_pos hc]
  cases number (c :: cs) <;> rfl

theorem before_number (n : Number) (frames : List Frame) {rest : List Char} (hr : Ends rest) :
    before frames (n.chars ++ rest) = .ok ⟨true, frames, rest⟩ := by
  have hskip := skip_number n hr
  rw [Number.chars]
  cases n.negative with
  | true =>
    have hminus : before frames ('-' :: (n.unsigned ++ rest)) =
        (number (n.unsigned ++ rest)).map fun rest => ⟨true, frames, rest⟩ := by
      change (number (n.unsigned ++ rest) >>= fun rest => Except.ok (State.mk true frames rest)) = _
      cases number (n.unsigned ++ rest) <;> rfl
    exact hminus.trans (by rw [hskip]; rfl)
  | false =>
    obtain ⟨c, cs, hw, hc⟩ := whole_head n.isWhole
    have hcs : n.unsigned ++ rest = c :: (cs ++ (n.fraction ++ n.exponent) ++ rest) := by
      rw [Number.unsigned, hw]
      rfl
    rw [if_neg Bool.false_ne_true, List.nil_append, hcs, before_digit hc, ← hcs, hskip]
    rfl

theorem before_scalar {d : Doc} (hd : d.depth = 0) (frames : List Frame)
    {more : List (List Char)} {cs : List Char} (hm : Follows more)
    (h : Spaced (d.tokens ++ more) cs) :
    ∃ rest, Spaced more rest ∧ Reaches ⟨false, frames, cs⟩ ⟨true, frames, rest⟩ := by
  obtain ⟨c, t, htokens, hc, -⟩ := d.tokens_eq
  rw [htokens, Doc.inner_scalar hd] at h
  obtain ⟨rest, hrest, hskip⟩ := spaced_cons (solid_cons hc t) h
  have hlt : rest.length < cs.length := by
    have hle := length_of_skipSpace hskip
    rw [List.length_cons] at hle
    omega
  refine ⟨rest, hrest, reaches_before ?_ hlt⟩
  rw [← before_skipSpace, hskip]
  cases d with
  | null =>
    obtain ⟨rfl, rfl⟩ := List.cons.inj (List.cons.inj htokens).1
    rfl
  | bool b =>
    cases b <;>
      · obtain ⟨rfl, rfl⟩ := List.cons.inj (List.cons.inj htokens).1
        rfl
  | number n =>
    rw [← (List.cons.inj htokens).1]
    exact before_number n frames (ends_spaced hm hrest)
  | str ps =>
    have hquote (cs : List Char) : before frames ('"' :: cs) =
        (string cs).map fun rest => ⟨true, frames, rest⟩ := by
      change (string cs >>= fun rest => Except.ok (State.mk true frames rest)) = _
      cases string cs <;> rfl
    rw [← (List.cons.inj htokens).1, Piece.quoted, List.cons_append, List.append_assoc,
      List.singleton_append, hquote, Piece.skip_string]
    rfl
  | arr ds => cases hd
  | obj ms => cases hd

/-! Containers -/

def Passes (d : Doc) : Prop :=
  ∀ frames more cs, Follows more → Spaced (d.tokens ++ more) cs →
    ∃ rest, Spaced more rest ∧ Reaches ⟨false, frames, cs⟩ ⟨true, frames, rest⟩

theorem member_doc (k : List Piece) {more : List (List Char)} {cs : List Char}
    (h : Spaced (Piece.quoted k :: [':'] :: more) cs) :
    ∃ rest, Spaced more rest ∧ rest.length < cs.length ∧ member cs = .ok rest := by
  have hquote : Solid (Piece.quoted k) := solid_cons rfl _
  obtain ⟨cs₁, hcs₁, hskip₁⟩ := spaced_cons hquote h
  obtain ⟨cs₂, hcs₂, hskip₂⟩ := spaced_sign rfl hcs₁
  have hle₁ := length_of_skipSpace hskip₁
  have hle₂ := length_of_skipSpace (t := [':']) hskip₂
  refine ⟨cs₂, hcs₂, ?_, ?_⟩
  · rw [List.length_singleton] at hle₂
    omega
  · rw [Piece.quoted, List.cons_append, List.append_assoc, List.singleton_append] at hskip₁
    simp only [member, hskip₁, Piece.skip_string, ok_bind, hskip₂, if_true]

/-- The items behind one of them, up to the closing bracket. -/
theorem reaches_items {ds : List Doc} (hi : ∀ d ∈ ds, Passes d) (frames : List Frame)
    {more : List (List Char)} {cs : List Char} (h : Spaced (itemTokens false ds ++ more) cs) :
    ∃ rest, Spaced more rest ∧ Reaches ⟨true, .list :: frames, cs⟩ ⟨true, frames, rest⟩ := by
  induction ds generalizing cs with
  | nil =>
    obtain ⟨rest, hrest, hskip⟩ := spaced_sign rfl h
    have hle := length_of_skipSpace (t := [']']) hskip
    rw [List.length_singleton] at hle
    exact ⟨rest, hrest, reaches_leave (by rw [leave, hskip]; rfl) hle⟩
  | cons d ds ih =>
    rw [itemTokens, List.append_assoc, List.append_assoc] at h
    obtain ⟨cs₁, hcs₁, hskip⟩ := spaced_sign rfl h
    have hle := length_of_skipSpace (t := [',']) hskip
    rw [List.length_singleton] at hle
    have hcomma : Reaches ⟨true, .list :: frames, cs⟩ ⟨false, .list :: frames, cs₁⟩ :=
      reaches_leave (by rw [leave, hskip]; rfl) hle
    obtain ⟨cs₂, hcs₂, hitem⟩ := hi d List.mem_cons_self _ _ _ (follows_items ds more) hcs₁
    obtain ⟨rest, hrest, hitems⟩ := ih (fun e he => hi e (List.mem_cons_of_mem d he)) hcs₂
    exact ⟨rest, hrest, (hcomma.trans hitem).trans hitems⟩

/-- The members behind one of them, up to the closing brace. -/
theorem reaches_members {ms : List (List Piece × Doc)} (hi : ∀ m ∈ ms, Passes m.2)
    (frames : List Frame) {more : List (List Char)} {cs : List Char}
    (h : Spaced (memberTokens false ms ++ more) cs) :
    ∃ rest, Spaced more rest ∧ Reaches ⟨true, .object :: frames, cs⟩ ⟨true, frames, rest⟩ := by
  induction ms generalizing cs with
  | nil =>
    obtain ⟨rest, hrest, hskip⟩ := spaced_sign rfl h
    have hle := length_of_skipSpace (t := ['\x7d']) hskip
    rw [List.length_singleton] at hle
    exact ⟨rest, hrest, reaches_leave (by rw [leave, hskip]; rfl) hle⟩
  | cons m ms ih =>
    obtain ⟨k, d⟩ := m
    rw [memberTokens, List.append_assoc, List.cons_append, List.cons_append,
      List.append_assoc] at h
    obtain ⟨cs₁, hcs₁, hskip⟩ := spaced_sign rfl h
    obtain ⟨cs₂, hcs₂, hlt, hmember⟩ := member_doc k hcs₁
    have hle := length_of_skipSpace (t := [',']) hskip
    have hcomma : Reaches ⟨true, .object :: frames, cs⟩ ⟨false, .object :: frames, cs₂⟩ := by
      refine reaches_leave ?_ (by dsimp only; omega)
      rw [leave, hskip]
      dsimp only
      rw [if_pos rfl, next, hmember]
      rfl
    obtain ⟨cs₃, hcs₃, hitem⟩ :=
      hi (k, d) List.mem_cons_self _ _ _ (follows_members ms more) hcs₂
    obtain ⟨rest, hrest, hmembers⟩ := ih (fun e he => hi e (List.mem_cons_of_mem _ he)) hcs₃
    exact ⟨rest, hrest, (hcomma.trans hitem).trans hmembers⟩

theorem passes_arr {ds : List Doc} (ih : ∀ d ∈ ds, Passes d) : Passes (.arr ds) := by
  intro frames more cs hm h
  change Spaced (['['] :: (itemTokens true ds ++ more)) cs at h
  obtain ⟨cs₁, hcs₁, hskip⟩ := spaced_sign rfl h
  have hle := length_of_skipSpace (t := ['[']) hskip
  rw [List.length_singleton] at hle
  have hopen : before frames cs = enter .list frames cs₁ := by rw [before, hskip]; rfl
  cases ds with
  | nil =>
    obtain ⟨rest, hrest, hclose⟩ := spaced_sign rfl hcs₁
    have hle' := length_of_skipSpace (t := [']']) hclose
    refine ⟨rest, hrest, reaches_before (hopen.trans ?_) (by dsimp only; omega)⟩
    rw [enter, hclose]
    rfl
  | cons d ds =>
    rw [itemTokens, List.append_assoc, List.append_assoc] at hcs₁
    obtain ⟨c, t, htokens, hc, hne⟩ := d.tokens_eq
    have htoks := hcs₁
    rw [htokens] at htoks
    obtain ⟨cs₂, hcs₂, hfirst⟩ := spaced_cons (solid_cons hc t) htoks
    have hle' := length_of_skipSpace hfirst
    have hstart : Spaced (d.tokens ++ (itemTokens false ds ++ more)) (c :: t ++ cs₂) := by
      rw [htokens]
      exact spaced_of_cons hcs₂
    have henter : Reaches ⟨false, frames, cs⟩ ⟨false, .list :: frames, c :: t ++ cs₂⟩ := by
      refine reaches_before (hopen.trans ?_) ?_
      · rw [enter, hfirst]
        exact if_neg hne
      · rw [List.length_append]
        omega
    obtain ⟨cs₃, hcs₃, hitem⟩ :=
      ih d List.mem_cons_self _ _ _ (follows_items ds more) hstart
    obtain ⟨rest, hrest, hitems⟩ :=
      reaches_items (fun e he => ih e (List.mem_cons_of_mem d he)) frames hcs₃
    exact ⟨rest, hrest, (henter.trans hitem).trans hitems⟩

theorem passes_obj {ms : List (List Piece × Doc)} (ih : ∀ m ∈ ms, Passes m.2) :
    Passes (.obj ms) := by
  intro frames more cs hm h
  change Spaced (['\x7b'] :: (memberTokens true ms ++ more)) cs at h
  obtain ⟨cs₁, hcs₁, hskip⟩ := spaced_sign rfl h
  have hle := length_of_skipSpace (t := ['\x7b']) hskip
  rw [List.length_singleton] at hle
  have hopen : before frames cs = enter .object frames cs₁ := by rw [before, hskip]; rfl
  cases ms with
  | nil =>
    obtain ⟨rest, hrest, hclose⟩ := spaced_sign rfl hcs₁
    have hle' := length_of_skipSpace (t := ['\x7d']) hclose
    refine ⟨rest, hrest, reaches_before (hopen.trans ?_) (by dsimp only; omega)⟩
    rw [enter, hclose]
    rfl
  | cons m ms =>
    obtain ⟨k, d⟩ := m
    rw [memberTokens, List.append_assoc, List.cons_append, List.cons_append,
      List.append_assoc] at hcs₁
    have hquote : Solid (Piece.quoted k) := solid_cons rfl _
    obtain ⟨cs', hcs', hfirst⟩ := spaced_cons hquote hcs₁
    have hle' := length_of_skipSpace hfirst
    obtain ⟨cs₂, hcs₂, hlt, hmember⟩ := member_doc k (spaced_of_cons hcs')
    rw [List.length_append] at hlt
    have henter : Reaches ⟨false, frames, cs⟩ ⟨false, .object :: frames, cs₂⟩ := by
      refine reaches_before (hopen.trans ?_) (by dsimp only; omega)
      rw [enter, hfirst]
      change next .object frames (Piece.quoted k ++ cs') = _
      rw [next, hmember]
      rfl
    obtain ⟨cs₃, hcs₃, hitem⟩ :=
      ih (k, d) List.mem_cons_self _ _ _ (follows_members ms more) hcs₂
    obtain ⟨rest, hrest, hmembers⟩ :=
      reaches_members (fun e he => ih e (List.mem_cons_of_mem _ he)) frames hcs₃
    exact ⟨rest, hrest, (henter.trans hitem).trans hmembers⟩

theorem passes (d : Doc) : Passes d := by
  induction d using Doc.induction with
  | null => exact fun frames more cs hm h => before_scalar rfl frames hm h
  | bool b => exact fun frames more cs hm h => before_scalar rfl frames hm h
  | number n => exact fun frames more cs hm h => before_scalar rfl frames hm h
  | str ps => exact fun frames more cs hm h => before_scalar rfl frames hm h
  | arr ds ih => exact passes_arr ih
  | obj ms ih => exact passes_obj ih

end Skip

theorem skipValue_doc (d : Doc) {more : List (List Char)} {cs : List Char} (hm : Follows more)
    (h : Spaced (d.tokens ++ more) cs) : ∃ rest, Spaced more rest ∧ skipValue cs = .ok rest := by
  obtain ⟨rest, hrest, k, hk, hrun⟩ := Skip.passes d [] more cs hm h
  dsimp only at hk
  refine ⟨rest, hrest, ?_⟩
  obtain ⟨j, hj⟩ : ∃ j, cs.length + 1 = (j + 1) + k := ⟨cs.length - k, by omega⟩
  rw [skipValue, hj, hrun]
  rfl

end Intercept.Json
