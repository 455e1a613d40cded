import Intercept.Json.Reader
import Intercept.Proofs.Json.Scalars
import Mathlib.Data.List.Induction

/-!
Documents are read as they were written, as far as they may nest. The items of a list and the
members of an object are told apart by what stands between them, so what follows is always the end
of a number. A document that nests too deep is refused as a whole, wherever in it that shows.
-/

namespace Intercept.Json

/-- A document that its text says all about: numbers are whole and in range, and the members of an
object stand in ascending order of their names, each name once. -/
inductive Value.Exact : Value → Prop where
  | null : Exact .null
  | bool (b : Bool) : Exact (.bool b)
  | int {n : Int} : Fits n → Exact (.int n)
  | str (s : String) : Exact (.str s)
  | arr {items : List Value} : (∀ v ∈ items, Exact v) → Exact (.arr items)
  | obj {members : List (String × Value)} :
      (members.map Prod.fst).Pairwise (· < ·) → (∀ m ∈ members, Exact m.2) → Exact (.obj members)

/-- A written document begins with neither a blank nor a closing bracket. -/
theorem chars_head {v : Value} (hv : v.Exact) :
    ∃ c cs, v.chars = c :: cs ∧ isSpace c = false ∧ c ≠ ']' := by
  cases hv with
  | null => exact ⟨'n', _, rfl, rfl, by decide⟩
  | bool b => cases b <;> exact ⟨_, _, rfl, rfl, by decide⟩
  | str s => exact ⟨'"', _, rfl, rfl, by decide⟩
  | arr h => exact ⟨'[', _, rfl, rfl, by decide⟩
  | obj h h' => exact ⟨'\x7b', _, rfl, rfl, by decide⟩
  | @int n h =>
    rw [Value.chars, intChars]
    split
    · exact ⟨'-', _, rfl, rfl, by decide⟩
    · obtain ⟨c, cs, hcs⟩ :=
        List.exists_cons_of_ne_nil (Nat.toDigits_ne_nil (n := n.natAbs) (b := 10))
      have hc : c.isDigit = true := isDigit_toDigits (hcs ▸ List.mem_cons_self)
      refine ⟨c, cs, hcs, isSpace_digit hc, ?_⟩
      rintro rfl
      cases hc

/-! What stands between brackets -/

/-- What is left of the parts of a container, before the first or behind another one. -/
def listed (close : Char) (first : Bool) : List (List Char) → List Char
  | [] => [close]
  | p :: ps => if first then p ++ listed close false ps else ',' :: (p ++ listed close false ps)

theorem listed_next (close : Char) (p : List Char) (ps : List (List Char)) :
    listed close false (p :: ps) = ',' :: (p ++ listed close false ps) := rfl

theorem listed_first (close : Char) (p : List Char) (ps : List (List Char)) :
    listed close true (p :: ps) = p ++ listed close false ps := rfl

theorem length_lt_listed (close : Char) (ps : List (List Char)) :
    ps.length < (listed close false ps).length := by
  induction ps with
  | nil => exact Nat.zero_lt_one
  | cons p ps ih =>
    rw [listed_next, List.length_cons, List.length_cons, List.length_append]
    omega

theorem length_le_listed (close : Char) (first : Bool) (ps : List (List Char)) :
    ps.length ≤ (listed close first ps).length := by
  cases first with
  | false => exact Nat.le_of_lt (length_lt_listed close ps)
  | true =>
    cases ps with
    | nil => exact Nat.zero_le _
    | cons p ps =>
      have h := length_lt_listed close ps
      rw [listed_first, List.length_cons, List.length_append]
      omega

theorem ends_listed {close : Char} (hc : ∀ cs, Ends (close :: cs)) (ps : List (List Char))
    (rest : List Char) : Ends (listed close false ps ++ rest) := by
  cases ps with
  | nil => exact hc rest
  | cons p ps => exact ends_comma _

theorem itemChars_eq (vs : List Value) : itemChars vs = listed ']' true (vs.map Value.chars) := by
  induction vs with
  | nil => rfl
  | cons v vs ih =>
    cases vs with
    | nil => rfl
    | cons w vs =>
      rw [itemChars, ih]
      rfl

def memberText (m : String × Value) : List Char := quote m.1 ++ ':' :: m.2.chars

theorem memberChars_eq (ms : List (String × Value)) :
    memberChars ms = listed '\x7d' true (ms.map memberText) := by
  induction ms with
  | nil => rfl
  | cons m ms ih =>
    obtain ⟨k, v⟩ := m
    cases ms with
    | nil => simp [memberChars, listed, memberText]
    | cons n ms =>
      rw [memberChars, ih]
      simp [listed, memberText]

theorem moreItems_listed {v : Value} (hv : v.Exact) (first : Bool) (ps : List (List Char))
    (rest : List Char) :
    moreItems first (listed ']' first (v.chars :: ps) ++ rest) =
      .ok (true, v.chars ++ (listed ']' false ps ++ rest)) := by
  obtain ⟨c, cs, hcs, hspace, hc⟩ := chars_head hv
  have hcomma : isSpace ',' = false := rfl
  cases first with
  | true =>
    rw [listed_first, List.append_assoc, hcs, List.cons_append]
    simp only [moreItems, skipSpace_cons _ hspace, if_neg hc, if_true]
  | false =>
    rw [listed_next, List.cons_append, List.append_assoc, hcs, List.cons_append]
    simp only [moreItems, skipSpace_cons _ hcomma, skipSpace_cons _ hspace, if_neg hc, if_true,
      Char.reduceEq, Bool.false_eq_true, if_false]

theorem nextName_listed (m : String × Value) (first : Bool) (ps : List (List Char))
    (rest : List Char) :
    nextName first (listed '\x7d' first (memberText m :: ps) ++ rest) =
      .ok (some m.1, ':' :: (m.2.chars ++ (listed '\x7d' false ps ++ rest))) := by
  have hcomma : isSpace ',' = false := rfl
  have hquote : isSpace '"' = false := rfl
  have hname (cs : List Char) :
      name ('"' :: cs) = (string cs).map fun r => (some r.1, r.2) := by
    change (string cs >>= fun r => Except.ok (some r.1, r.2)) = _
    cases string cs <;> rfl
  cases first with
  | true =>
    rw [listed_first, memberText, List.append_assoc, List.append_assoc, quote_append]
    simp only [nextName, skipSpace_cons _ hquote, if_true, Char.reduceEq, if_false, hname,
      string_escaped, map_ok, List.cons_append]
  | false =>
    rw [listed_next, memberText, List.cons_append, List.append_assoc, List.append_assoc,
      quote_append]
    simp only [nextName, skipSpace_cons _ hcomma, skipSpace_cons _ hquote, if_true, Char.reduceEq,
      Bool.false_eq_true, if_false, hname, string_escaped, map_ok, List.cons_append]

/-! Reading what is written is doing something with each part in turn -/

variable {α : Type} {item : List Char → Except Flaw (α × List Char)} {r : Value → Except Flaw α}

/-- A reader that does `r` with a written document and leaves what follows. -/
def Reads (item : List Char → Except Flaw (α × List Char)) (r : Value → Except Flaw α)
    (v : Value) : Prop :=
  ∀ rest, Ends rest → item (v.chars ++ rest) = (r v).map (·, rest)

theorem items_listed {vs : List Value} (hv : ∀ v ∈ vs, v.Exact) (hi : ∀ v ∈ vs, Reads item r v)
    {fuel : Nat} (hf : vs.length < fuel) (first : Bool) (rest : List Char) :
    items item fuel first (listed ']' first (vs.map Value.chars) ++ rest) =
      (vs.mapM r).map (·, ']' :: rest) := by
  induction vs generalizing fuel first with
  | nil =>
    obtain ⟨k, rfl⟩ := Nat.exists_eq_add_of_lt hf
    rfl
  | cons v vs ih =>
    obtain ⟨k, rfl⟩ := Nat.exists_eq_add_of_lt hf
    have hrest := ih (fun w hw => hv w (List.mem_cons_of_mem v hw))
      (fun w hw => hi w (List.mem_cons_of_mem v hw))
      (show vs.length < (v :: vs).length + k by rw [List.length_cons]; omega) false
    have hitem := hi v List.mem_cons_self _ (ends_listed ends_bracket (vs.map Value.chars) rest)
    rw [List.map_cons, items, moreItems_listed (hv v List.mem_cons_self), ok_bind]
    dsimp only
    rw [if_pos rfl, hitem, List.mapM_cons]
    cases r v with
    | error e => rfl
    | ok x =>
      rw [map_ok, ok_bind, ok_bind]
      dsimp only
      rw [hrest]
      cases vs.mapM r <;> rfl

theorem members_listed {ms : List (String × Value)} (hi : ∀ m ∈ ms, Reads item r m.2)
    {fuel : Nat} (hf : ms.length < fuel) (first : Bool) (rest : List Char) :
    members item fuel first (listed '\x7d' first (ms.map memberText) ++ rest) =
      (ms.mapM fun m => (r m.2).map (m.1, ·)).map (·, '\x7d' :: rest) := by
  induction ms generalizing fuel first with
  | nil =>
    obtain ⟨k, rfl⟩ := Nat.exists_eq_add_of_lt hf
    rfl
  | cons m ms ih =>
    obtain ⟨k, rfl⟩ := Nat.exists_eq_add_of_lt hf
    have hrest := ih (fun w hw => hi w (List.mem_cons_of_mem m hw))
      (show ms.length < (m :: ms).length + k by rw [List.length_cons]; omega) false
    have hitem := hi m List.mem_cons_self _ (ends_listed ends_brace (ms.map memberText) rest)
    have hcolon (cs : List Char) : colon (':' :: cs) = .ok cs := rfl
    rw [List.map_cons, members, nextName_listed, ok_bind]
    dsimp only
    rw [hcolon, ok_bind, hitem, List.mapM_cons]
    cases r m.2 with
    | error e => rfl
    | ok x =>
      rw [map_ok, map_ok, ok_bind, ok_bind]
      dsimp only
      rw [hrest]
      cases ms.mapM fun m => (r m.2).map (m.1, ·) <;> rfl

theorem wholeList_chars {vs : List Value} (hv : ∀ v ∈ vs, v.Exact)
    (hi : ∀ v ∈ vs, Reads item r v) (rest : List Char) :
    wholeList item (itemChars vs ++ rest) = (vs.mapM r).map (·, rest) := by
  have hlen := length_le_listed ']' true (vs.map Value.chars)
  rw [List.length_map] at hlen
  rw [wholeList, itemChars_eq, items_listed hv hi (by rw [List.length_append]; omega)]
  cases vs.mapM r <;> rfl

theorem wholeObject_chars {ms : List (String × Value)} (hi : ∀ m ∈ ms, Reads item r m.2)
    (rest : List Char) :
    wholeObject item (memberChars ms ++ rest) =
      (ms.mapM fun m => (r m.2).map (m.1, ·)).map (·, rest) := by
  have hlen := length_le_listed '\x7d' true (ms.map memberText)
  rw [List.length_map] at hlen
  rw [wholeObject, memberChars_eq, members_listed hi (by rw [List.length_append]; omega)]
  cases ms.mapM fun m => (r m.2).map (m.1, ·) <;> rfl

/-! Sorted members -/

theorem insertMember_last {x : α} {k : String} {ms : List (String × α)}
    (h : ∀ n ∈ ms.map Prod.fst, n < k) : insertMember k x ms = ms ++ [(k, x)] := by
  induction ms with
  | nil => rfl
  | cons m ms ih =>
    obtain ⟨n, y⟩ := m
    have hn : n < k := h n List.mem_cons_self
    rw [insertMember, if_neg (String.lt_asymm hn), if_neg (String.ne_of_lt hn).symm,
      ih fun l hl => h l (List.mem_cons_of_mem n hl)]
    rfl

/-- Members that stand in order stay as they are. -/
theorem sortMembers_sorted {ms : List (String × α)}
    (h : (ms.map Prod.fst).Pairwise (· < ·)) : sortMembers ms = ms := by
  induction ms using List.reverseRecOn with
  | nil => rfl
  | append_singleton ms m ih =>
    rw [List.map_append, List.pairwise_append] at h
    obtain ⟨hms, -, hlast⟩ := h
    have hins : sortMembers (ms ++ [m]) = insertMember m.1 m.2 (sortMembers ms) :=
      List.foldl_append
    rw [hins, ih hms, insertMember_last fun n hn => hlast n hn m.1 (List.mem_singleton_self _)]

theorem name_insertMember {x : α} {k n : String} {ms : List (String × α)}
    (h : n ∈ (insertMember k x ms).map Prod.fst) : n = k ∨ n ∈ ms.map Prod.fst := by
  induction ms with
  | nil => exact .inl (List.mem_singleton.mp h)
  | cons m ms ih =>
    obtain ⟨l, y⟩ := m
    rw [insertMember] at h
    split_ifs at h with hlt heq
    · exact List.mem_cons.mp h
    · exact (List.mem_cons.mp h).imp_right (List.mem_cons_of_mem l)
    · rcases List.mem_cons.mp h with rfl | h
      · exact .inr List.mem_cons_self
      · exact (ih h).imp_right (List.mem_cons_of_mem l)

theorem insertMember_pairwise {x : α} {k : String} {ms : List (String × α)}
    (h : (ms.map Prod.fst).Pairwise (· < ·)) :
    ((insertMember k x ms).map Prod.fst).Pairwise (· < ·) := by
  induction ms with
  | nil => exact List.pairwise_singleton _ _
  | cons m ms ih =>
    obtain ⟨l, y⟩ := m
    obtain ⟨hl, hms⟩ := List.pairwise_cons.mp h
    rw [insertMember]
    split_ifs with hlt heq
    · refine List.pairwise_cons.mpr ⟨fun n hn => ?_, h⟩
      rcases List.mem_cons.mp hn with rfl | hn
      · exact hlt
      · exact String.lt_trans hlt (hl n hn)
    · exact heq ▸ h
    · refine List.pairwise_cons.mpr ⟨fun n hn => ?_, ih hms⟩
      rcases name_insertMember hn with rfl | hn
      · exact Std.lt_of_le_of_ne (String.not_lt.mp hlt) (Ne.symm heq)
      · exact hl n hn

theorem sortMembers_pairwise (ms : List (String × α)) :
    ((sortMembers ms).map Prod.fst).Pairwise (· < ·) := by
  induction ms using List.reverseRecOn with
  | nil => exact .nil
  | append_singleton ms m ih =>
    have hins : sortMembers (ms ++ [m]) = insertMember m.1 m.2 (sortMembers ms) :=
      List.foldl_append
    rw [hins]
    exact insertMember_pairwise ih

theorem insertMember_perm {x : α} {k : String} {ms : List (String × α)}
    (h : k ∉ ms.map Prod.fst) : (insertMember k x ms).Perm ((k, x) :: ms) := by
  induction ms with
  | nil => exact .refl _
  | cons m ms ih =>
    obtain ⟨n, y⟩ := m
    obtain ⟨hn, hms⟩ := not_or.mp fun hor => h (List.mem_cons.mpr hor)
    rw [insertMember, if_neg (show ¬ k = n from hn)]
    split
    · exact .refl _
    · exact ((ih hms).cons (n, y)).trans (.swap (k, x) (n, y) ms)

/-- No member is lost if each has a name of its own. -/
theorem sortMembers_perm {ms : List (String × α)} (h : (ms.map Prod.fst).Nodup) :
    (sortMembers ms).Perm ms := by
  induction ms using List.reverseRecOn with
  | nil => exact .refl _
  | append_singleton ms m ih =>
    rw [List.map_append, List.nodup_append] at h
    obtain ⟨hms, -, hlast⟩ := h
    have hsort := ih hms
    have hins : sortMembers (ms ++ [m]) = insertMember m.1 m.2 (sortMembers ms) :=
      List.foldl_append
    have hm : m.1 ∉ (sortMembers ms).map Prod.fst := fun hmem =>
      hlast m.1 ((hsort.map Prod.fst).mem_iff.mp hmem) m.1 (List.mem_singleton_self _) rfl
    rw [hins]
    exact ((insertMember_perm hm).trans (hsort.cons m)).trans (List.perm_append_singleton m ms).symm

/-! Whole documents -/

def Value.upTo (levels : Nat) (v : Value) : Except Flaw Value :=
  if v.depth ≤ levels then .ok v else .error .tooDeep

theorem depthItems_eq (vs : List Value) : depthItems vs = (vs.map Value.depth).foldr max 0 := by
  induction vs with
  | nil => rfl
  | cons v vs ih => rw [depthItems, ih, List.map_cons, List.foldr_cons]

theorem depthMembers_eq (ms : List (String × Value)) :
    depthMembers ms = (ms.map fun m => m.2.depth).foldr max 0 := by
  induction ms with
  | nil => rfl
  | cons m ms ih => rw [depthMembers, ih, List.map_cons, List.foldr_cons]

theorem depthMembers_le {ms : List (String × Value)} {d : Nat}
    (h : ∀ m ∈ ms, m.2.depth ≤ d) : depthMembers ms ≤ d := by
  induction ms with
  | nil => exact Nat.zero_le d
  | cons m ms ih =>
    exact Nat.max_le.mpr ⟨h m List.mem_cons_self, ih fun n hn => h n (List.mem_cons_of_mem m hn)⟩

/-- Parts that are refused beyond some depth are refused together if the deepest is. -/
theorem mapM_upTo {levels : Nat} {f : α → Except Flaw α} {depth : α → Nat}
    (h : ∀ x, f x = if depth x ≤ levels then .ok x else .error .tooDeep) (xs : List α) :
    xs.mapM f =
      if (xs.map depth).foldr max 0 ≤ levels then .ok xs else .error .tooDeep := by
  induction xs with
  | nil => rfl
  | cons x xs ih =>
    rw [List.mapM_cons, ih, h, List.map_cons, List.foldr_cons]
    by_cases hx : depth x ≤ levels
    · by_cases hxs : (xs.map depth).foldr max 0 ≤ levels
      · rw [if_pos hx, if_pos hxs, if_pos (Nat.max_le.mpr ⟨hx, hxs⟩)]
        rfl
      · rw [if_pos hx, if_neg hxs, if_neg fun h => hxs (Nat.max_le.mp h).2]
        rfl
    · rw [if_neg hx, if_neg fun h => hx (Nat.max_le.mp h).1]
      rfl

theorem mapM_items (levels : Nat) (vs : List Value) :
    vs.mapM (Value.upTo levels) = if depthItems vs ≤ levels then .ok vs else .error .tooDeep := by
  rw [depthItems_eq]
  exact mapM_upTo (fun v => rfl) vs

theorem mapM_members (levels : Nat) (ms : List (String × Value)) :
    (ms.mapM fun m => (m.2.upTo levels).map (m.1, ·)) =
      if depthMembers ms ≤ levels then .ok ms else .error .tooDeep := by
  rw [depthMembers_eq]
  refine mapM_upTo (fun m => ?_) ms
  rw [Value.upTo]
  split <;> rfl

/-- What is written is read again, with what follows it left over. -/
theorem value_chars {v : Value} (hv : v.Exact) (levels : Nat) :
    Reads (value levels) (Value.upTo levels) v := by
  induction hv generalizing levels with
  | null => exact fun rest _ => by rw [value]; rfl
  | bool b => cases b <;> exact fun rest _ => by rw [value]; rfl
  | int h =>
    intro rest hr
    rw [value, Value.chars, head_int h hr]
    rfl
  | str s =>
    intro rest _
    rw [value, Value.chars, head_quote]
    rfl
  | @arr vs hv ih =>
    intro rest _
    have hhead : head ((Value.arr vs).chars ++ rest) = .ok (.list, itemChars vs ++ rest) := rfl
    rw [value, hhead, Value.upTo, Value.depth]
    cases levels with
    | zero => rfl
    | succ levels =>
      dsimp only
      rw [wholeList_chars hv (fun v h => ih v h levels), mapM_items]
      by_cases hd : depthItems vs ≤ levels
      · rw [if_pos hd, if_pos (Nat.succ_le_succ hd)]
        rfl
      · rw [if_neg hd, if_neg fun h => hd (Nat.le_of_succ_le_succ h)]
        rfl
  | @obj ms hsorted hv ih =>
    intro rest _
    have hhead : head ((Value.obj ms).chars ++ rest) = .ok (.object, memberChars ms ++ rest) := rfl
    rw [value, hhead, Value.upTo, Value.depth]
    cases levels with
    | zero => rfl
    | succ levels =>
      dsimp only
      rw [wholeObject_chars (fun m h => ih m h levels), mapM_members]
      by_cases hd : depthMembers ms ≤ levels
      · rw [if_pos hd, if_pos (Nat.succ_le_succ hd), map_ok, map_ok, ok_bind]
        dsimp only
        rw [Value.object, sortMembers_sorted hsorted]
      · rw [if_neg hd, if_neg fun h => hd (Nat.le_of_succ_le_succ h)]
        rfl

end Intercept.Json
