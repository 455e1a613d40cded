import Intercept.Proofs.Json.Syntax

/-!
Strings and numbers, whatever their spelling. Both readers take the token that stands there and
leave what follows it; the one that keeps values refuses those that have none.
-/

namespace Intercept.Json

theorem toOption_bind {ε α β : Type} (x : Except ε α) (f : α → Except ε β) :
    (x >>= f).toOption = x.toOption.bind fun a => (f a).toOption := by
  cases x <;> rfl

theorem toOption_ok {ε α : Type} (a : α) : (Except.ok a : Except ε α).toOption = some a := rfl

theorem toOption_map {ε α β : Type} (x : Except ε α) (f : α → β) :
    (x.map f).toOption = x.toOption.map f := by
  cases x <;> rfl

/-! Strings -/

namespace Piece

theorem hexEscape_digits (a b c d : HexDigit) (rest : List Char) :
    hexEscape (a.char :: b.char :: c.char :: d.char :: rest) = .ok (number a b c d, rest) := by
  simp only [hexEscape, a.valid, b.valid, c.valid, d.valid, number]

theorem escape_letter {c x : Char} (h : shortEscape? c = some x) (rest : List Char) :
    escape (c :: rest) = .ok (x, rest) := by
  have hu : c ≠ 'u' := by
    rintro rfl
    cases h
  rw [escape, if_neg hu, h]

theorem escape_unit (a b c d : HexDigit) (rest : List Char) :
    escape ('u' :: a.char :: b.char :: c.char :: d.char :: rest) =
      if IsLow (number a b c d) then .error .loneSurrogate
      else if IsHigh (number a b c d) then lowHalf (number a b c d) rest
      else .ok (Char.ofNat (number a b c d), rest) := by
  rw [escape, if_pos rfl, unicodeEscape, hexEscape_digits, ok_bind]
  rfl

theorem lowHalf_unit (n : Nat) (a b c d : HexDigit) (rest : List Char) :
    lowHalf n ('\\' :: 'u' :: a.char :: b.char :: c.char :: d.char :: rest) =
      if IsLow (number a b c d) then .ok (pair n (number a b c d), rest)
      else .error .loneSurrogate := by
  rw [lowHalf, hexEscape_digits, ok_bind]
  rfl

theorem lowHalf_refused (n : Nat) {cs : List Char} (h : ∀ ds, cs ≠ '\\' :: 'u' :: ds) :
    (lowHalf n cs).toOption = none := by
  unfold lowHalf
  split
  · rfl
  · rfl
  · exact absurd rfl (h _)
  · rfl

/-- The first half of a character needs the second one right behind it. -/
theorem lowHalf_other (n : Nat) {ps : List Piece} (h : ∀ a b c d qs, ps ≠ unit a b c d :: qs)
    (rest : List Char) :
    (lowHalf n (ps.flatMap chars ++ '"' :: rest)).toOption = none := by
  refine lowHalf_refused n fun ds heq => ?_
  cases ps with
  | nil => cases heq
  | cons p ps =>
    cases p with
    | plain c valid => exact valid.2.1 (List.cons.inj heq).1
    | letter c x valid =>
      obtain rfl : c = 'u' := (List.cons.inj (List.cons.inj heq).2).1
      cases valid
    | unit a b c d => exact h a b c d ps rfl

/-- One character is read, and the rest of the string behind it. -/
theorem stringRest_next {n fuel : Nat} (hf : n + 1 < fuel) {c x : Char} {cs rest : List Char}
    (h : ∀ k, stringRest (k + 1) (c :: cs) = (stringRest k rest).map fun r => (x :: r.1, r.2))
    {ps : List Piece} {after : List Char}
    (hrest : ∀ k, n < k → (stringRest k rest).toOption = (spelt? ps).map (·, after)) :
    (stringRest fuel (c :: cs)).toOption = ((spelt? ps).map (x :: ·)).map (·, after) := by
  obtain ⟨k, rfl⟩ := Nat.exists_eq_succ_of_ne_zero (Nat.ne_zero_of_lt hf)
  rw [h, toOption_map, hrest k (Nat.lt_of_succ_lt_succ hf)]
  cases spelt? ps <;> rfl

theorem stringRest_plain {c : Char} (h : c ≠ '"' ∧ c ≠ '\\' ∧ ¬ c.toNat < 32) (cs : List Char)
    (fuel : Nat) :
    stringRest (fuel + 1) (c :: cs) = (stringRest fuel cs).map fun r => (c :: r.1, r.2) := by
  rw [stringRest, if_neg h.1, if_neg h.2.1, if_neg h.2.2]
  cases stringRest fuel cs <;> rfl

theorem stringRest_refused {cs : List Char} (h : (escape cs).toOption = none) (fuel : Nat) :
    (stringRest fuel ('\\' :: cs)).toOption = none := by
  cases fuel with
  | zero => rfl
  | succ fuel =>
    rw [stringRest, if_neg (by decide), if_pos rfl, toOption_bind, h]
    rfl

/-- A string is read if all its characters are whole. -/
theorem stringRest_spelt (ps : List Piece) (rest : List Char) (fuel : Nat)
    (hf : ps.length < fuel) :
    (stringRest fuel (ps.flatMap chars ++ '"' :: rest)).toOption =
      (spelt? ps).map (·, rest) := by
  fun_induction spelt? ps generalizing fuel with
  | case1 =>
    obtain ⟨k, rfl⟩ := Nat.exists_eq_succ_of_ne_zero (Nat.ne_zero_of_lt hf)
    rfl
  | case2 c valid ps ih => exact stringRest_next hf (stringRest_plain valid _) ih
  | case3 c x valid ps ih =>
    exact stringRest_next hf (stringRest_escape (escape_letter valid _)) ih
  | case4 a b c d ps hlow =>
    refine stringRest_refused ?_ fuel
    exact congrArg Except.toOption ((escape_unit a b c d _).trans (if_pos hlow))
  | case5 a b c d hlow hhigh a' b' c' d' qs hsecond ih =>
    refine stringRest_next hf (stringRest_escape ?_) fun k hk => ih k (Nat.lt_of_succ_lt hk)
    refine (escape_unit a b c d _).trans ?_
    rw [if_neg hlow, if_pos hhigh]
    exact (lowHalf_unit _ a' b' c' d' _).trans (if_pos hsecond)
  | case6 a b c d hlow hhigh a' b' c' d' qs hsecond =>
    refine stringRest_refused ?_ fuel
    refine (congrArg Except.toOption (escape_unit a b c d _)).trans ?_
    rw [if_neg hlow, if_pos hhigh]
    exact congrArg Except.toOption ((lowHalf_unit _ a' b' c' d' _).trans (if_neg hsecond))
  | case7 a b c d ps hlow hhigh hother =>
    refine stringRest_refused ?_ fuel
    refine (congrArg Except.toOption (escape_unit a b c d _)).trans ?_
    rw [if_neg hlow, if_pos hhigh]
    exact lowHalf_other _ hother rest
  | case8 a b c d ps hlow hhigh ih =>
    refine stringRest_next hf (stringRest_escape ?_) ih
    exact ((escape_unit a b c d _).trans (if_neg hlow)).trans (if_neg hhigh)

theorem length_le_chars (ps : List Piece) : ps.length ≤ (ps.flatMap chars).length := by
  induction ps with
  | nil => exact Nat.le_refl 0
  | cons p ps ih =>
    have hp : 0 < p.chars.length := by cases p <;> exact Nat.succ_pos _
    rw [List.flatMap_cons, List.length_append, List.length_cons]
    omega

theorem length_lt_quoted (ps : List Piece) (rest : List Char) :
    ps.length < (ps.flatMap chars ++ '"' :: rest).length := by
  have h := length_le_chars ps
  rw [List.length_append, List.length_cons]
  omega

theorem string_spelt (ps : List Piece) (rest : List Char) :
    (string (ps.flatMap chars ++ '"' :: rest)).toOption = (text? ps).map (·, rest) := by
  rw [string, toOption_bind, stringRest_spelt ps rest _ (length_lt_quoted ps rest), text?]
  cases spelt? ps <;> rfl

/-- Whoever does not keep a string takes any. -/
theorem skip_stringRest (ps : List Piece) (rest : List Char) {fuel : Nat} (hf : ps.length < fuel) :
    Skip.stringRest fuel (ps.flatMap chars ++ '"' :: rest) = .ok rest := by
  induction ps generalizing fuel with
  | nil =>
    obtain ⟨k, rfl⟩ := Nat.exists_eq_succ_of_ne_zero (Nat.ne_zero_of_lt hf)
    rfl
  | cons p ps ih =>
    obtain ⟨k, rfl⟩ := Nat.exists_eq_succ_of_ne_zero (Nat.ne_zero_of_lt hf)
    have hrest := ih (Nat.lt_of_succ_lt_succ hf)
    cases p with
    | plain c h =>
      simp only [List.flatMap_cons, chars, List.nil_append, List.cons_append,
        Skip.stringRest, if_neg h.1, if_neg h.2.1, if_neg h.2.2, hrest]
    | letter c x valid =>
      have hu : c ≠ 'u' := by
        rintro rfl
        cases valid
      simp only [List.flatMap_cons, chars, List.cons_append, List.nil_append, Skip.stringRest,
        if_neg hu, valid, Option.isSome_some, Char.reduceEq, if_true, if_false, hrest]
    | unit a b c d =>
      simp only [List.flatMap_cons, chars, List.cons_append, List.nil_append, Skip.stringRest,
        hexEscape_digits, Char.reduceEq, if_true, if_false, hrest]

theorem skip_string (ps : List Piece) (rest : List Char) :
    Skip.string (ps.flatMap chars ++ '"' :: rest) = .ok rest :=
  skip_stringRest ps rest (length_lt_quoted ps rest)

end Piece

/-! Numbers -/

def DigitFree (cs : List Char) : Prop := ∀ c ∈ cs.head?, c.isDigit = false

theorem digitFree_ends {cs : List Char} (h : Ends cs) : DigitFree cs := fun c hc => (h c hc).1

theorem digitFree_cons {c : Char} (hc : c.isDigit = false) (cs : List Char) :
    DigitFree (c :: cs) := by
  intro d hd
  obtain rfl : c = d := Option.some.inj hd
  exact hc

theorem skipDigits_append {ds rest : List Char} (hd : AllDigits ds) (hr : DigitFree rest) :
    skipDigits (ds ++ rest) = rest := by
  rw [skipDigits, List.dropWhile_append_of_pos hd]
  cases rest with
  | nil => rfl
  | cons c cs => rw [List.dropWhile_cons_of_neg (by rw [hr c rfl]; exact Bool.false_ne_true)]

theorem takeWhile_append {ds rest : List Char} (hd : AllDigits ds) (hr : DigitFree rest) :
    (ds ++ rest).takeWhile Char.isDigit = ds := by
  rw [List.takeWhile_append_of_pos hd]
  cases rest with
  | nil => exact List.append_nil ds
  | cons c cs =>
    rw [List.takeWhile_cons_of_neg (by rw [hr c rfl]; exact Bool.false_ne_true), List.append_nil]

/-- How many digits fit does not depend on what follows them. -/
theorem takeDigits_digits {ds : List Char} (hd : AllDigits ds) (m count : Nat) :
    ∃ n k left, AllDigits left ∧ ∀ rest, DigitFree rest →
      takeDigits m count (ds ++ rest) = (n, k, left ++ rest) := by
  induction ds generalizing m count with
  | nil =>
    refine ⟨m, count, [], hd, fun rest hr => ?_⟩
    cases rest with
    | nil => rfl
    | cons c cs =>
      have hc : ¬ (c.isDigit = true ∧ m * 10 + digitValue c < UInt64.size) := by simp [hr c rfl]
      rw [List.nil_append, takeDigits, if_neg hc]
  | cons c ds ih =>
    by_cases hfits : m * 10 + digitValue c < UInt64.size
    · obtain ⟨n, k, left, hleft, h⟩ :=
        ih (fun x hx => hd x (List.mem_cons_of_mem c hx)) (m * 10 + digitValue c) (count + 1)
      refine ⟨n, k, left, hleft, fun rest hr => ?_⟩
      rw [List.cons_append, takeDigits, if_pos ⟨hd c List.mem_cons_self, hfits⟩, h rest hr]
    · refine ⟨m, count, c :: ds, hd, fun rest _ => ?_⟩
      rw [List.cons_append, takeDigits, if_neg fun h => hfits h.2]

def Numeric (x : Except Flaw Head) : Prop :=
  ∀ h, x = .ok h → (∃ n, h = .int n) ∨ ∃ y, h = .float y

theorem numeric_scaled (negative : Bool) (m : Nat) (power : Int) :
    Numeric (scaled negative m power) := by
  intro h hh
  unfold scaled at hh
  split at hh <;> cases hh
  exact .inr ⟨_, rfl⟩

theorem numeric_whole (negative : Bool) (m : Nat) : Numeric (whole negative m) := by
  intro h hh
  unfold whole at hh
  split_ifs at hh
  · cases hh
    exact .inl ⟨_, rfl⟩
  · exact numeric_scaled true m 0 h hh
  · cases hh
    exact .inl ⟨_, rfl⟩

/-- A reader of part of a number takes all of `cs`, and what it makes of it does not depend on what
follows. -/
def Steady (read : List Char → Except Flaw (Head × List Char)) (cs : List Char) : Prop :=
  ∃ x : Except Flaw Head, Numeric x ∧ ∀ rest, Ends rest → read (cs ++ rest) = x.map (·, rest)

theorem needDigit_digits {ds : List Char} (hne : ds ≠ []) (hd : AllDigits ds) (rest : List Char) :
    needDigit (ds ++ rest) = .ok () := by
  obtain ⟨c, cs, rfl⟩ := List.exists_cons_of_ne_nil hne
  exact if_pos (hd c List.mem_cons_self)

theorem digit_ne {c d : Char} (hc : c.isDigit = true) (hd : d.isDigit = false) : c ≠ d := by
  rintro rfl
  rw [hc] at hd
  cases hd

variable (negative : Bool)

/-- The digits of an exponent, behind its sign. -/
theorem steady_power (down : Bool) (m : Nat) (power : Int) {ex ds : List Char} (hne : ds ≠ [])
    (hd : AllDigits ds)
    (hread : ∀ rest, exponent negative m power (ex ++ rest) = (do
      needDigit (ds ++ rest)
      let n : Int := Nat.ofDigitChars 10 ((ds ++ rest).takeWhile Char.isDigit) 0
      let x ← scaled negative m (if down then power - n else power + n)
      .ok (x, skipDigits (ds ++ rest)))) : Steady (exponent negative m power) ex := by
  refine ⟨scaled negative m (if down then power - (Nat.ofDigitChars 10 ds 0 : Nat)
    else power + (Nat.ofDigitChars 10 ds 0 : Nat)), numeric_scaled _ _ _, fun rest hr => ?_⟩
  have hfree := digitFree_ends hr
  rw [hread, needDigit_digits hne hd, ok_bind, takeWhile_append hd hfree,
    skipDigits_append hd hfree]
  dsimp only
  cases scaled negative m _ <;> rfl

theorem steady_plain (m : Nat) (power : Int) {ds : List Char} (hne : ds ≠ []) (hd : AllDigits ds) :
    Steady (exponent negative m power) ds := by
  refine steady_power negative false m power hne hd fun rest => ?_
  obtain ⟨c, cs, rfl⟩ := List.exists_cons_of_ne_nil hne
  have hc := hd c List.mem_cons_self
  have hplus : c ≠ '+' := digit_ne hc rfl
  have hminus : c ≠ '-' := digit_ne hc rfl
  simp only [exponent, List.cons_append]
  split <;> simp_all

/-- What stands behind the mark of an exponent. -/
theorem steady_behind (m : Nat) (power : Int) {e : Char} {tail : List Char}
    (h : IsExponent (e :: tail)) :
    isExponentMark e = true ∧ Steady (exponent negative m power) tail := by
  cases h with
  | plain he hne hd => exact ⟨he, steady_plain negative m power hne hd⟩
  | signed he hs hne hd =>
    rcases hs with rfl | rfl
    · exact ⟨he, steady_power negative false m power hne hd fun _ => rfl⟩
    · exact ⟨he, steady_power negative true m power hne hd fun _ => rfl⟩

theorem not_mark {c : Char} {cs : List Char} (h : Ends (c :: cs)) : ¬ isExponentMark c = true := by
  rw [(h c rfl).2.2]
  exact Bool.false_ne_true

theorem not_point {c : Char} (h : isExponentMark c = true) : c ≠ '.' := by
  rintro rfl
  cases h

theorem steady_exponent (m : Nat) (power : Int) {ex : List Char} (h : IsExponent ex) :
    Steady (afterFraction negative m power) ex := by
  cases ex with
  | nil =>
    refine ⟨scaled negative m power, numeric_scaled _ _ _, fun rest hr => ?_⟩
    cases rest with
    | nil =>
      simp only [List.append_nil, afterFraction]
      cases scaled negative m power <;> rfl
    | cons c cs =>
      rw [List.nil_append, afterFraction, if_neg (not_mark hr)]
      cases scaled negative m power <;> rfl
  | cons e tail =>
    obtain ⟨he, x, hnum, hx⟩ := steady_behind negative m power h
    refine ⟨x, hnum, fun rest hr => ?_⟩
    rw [List.cons_append, afterFraction, if_pos he, hx rest hr]

theorem digitFree_exponent {ex rest : List Char} (h : IsExponent ex) (hr : Ends rest) :
    DigitFree (ex ++ rest) := by
  have hmark {e : Char} (he : isExponentMark e = true) : e.isDigit = false := by
    rw [isExponentMark, Bool.or_eq_true, beq_iff_eq, beq_iff_eq] at he
    rcases he with rfl | rfl <;> rfl
  cases h with
  | none => exact digitFree_ends hr
  | plain he => exact digitFree_cons (hmark he) _
  | signed he => exact digitFree_cons (hmark he) _

/-- What may follow the whole digits. -/
theorem steady_fraction (m dropped : Nat) {fr ex : List Char} (hf : IsFraction fr)
    (he : IsExponent ex) : Steady (afterWhole negative m dropped) (fr ++ ex) := by
  cases hf with
  | none =>
    cases ex with
    | nil =>
      refine ⟨if dropped = 0 then whole negative m else scaled negative m dropped, ?_,
        fun rest hr => ?_⟩
      · split
        · exact numeric_whole negative m
        · exact numeric_scaled negative m dropped
      cases rest with
      | nil =>
        simp only [List.append_nil, afterWhole]
        split
        · cases whole negative m <;> rfl
        · cases scaled negative m dropped <;> rfl
      | cons c cs =>
        rw [List.nil_append, List.nil_append, afterWhole, if_neg (hr c rfl).2.1,
          if_neg (not_mark hr)]
        split
        · cases whole negative m <;> rfl
        · cases scaled negative m dropped <;> rfl
    | cons e tail =>
      obtain ⟨hmark, x, hnum, hx⟩ := steady_behind negative m dropped he
      refine ⟨x, hnum, fun rest hr => ?_⟩
      rw [List.nil_append, List.cons_append, afterWhole, if_neg (not_point hmark), if_pos hmark,
        hx rest hr]
  | @point ds hne hd =>
    obtain ⟨n, k, left, hleft, htake⟩ := takeDigits_digits hd m 0
    obtain ⟨x, hnum, hx⟩ := steady_exponent negative n (dropped - k) he
    refine ⟨x, hnum, fun rest hr => ?_⟩
    have hfree := digitFree_exponent he hr
    rw [List.cons_append, List.cons_append, List.append_assoc, afterWhole, if_pos rfl, fraction,
      needDigit_digits hne hd, ok_bind, htake _ hfree]
    dsimp only
    rw [skipDigits_append hleft hfree, hx rest hr]

theorem digitFree_fraction {fr ex rest : List Char} (hf : IsFraction fr) (he : IsExponent ex)
    (hr : Ends rest) : DigitFree (fr ++ ex ++ rest) := by
  cases hf with
  | none => exact digitFree_exponent he hr
  | point => exact digitFree_cons rfl _

theorem steady_number (n : Number) : Steady (number n.negative) n.unsigned := by
  obtain ⟨negative, whole, fr, ex, hw, hf, he⟩ := n
  dsimp only [Number.unsigned]
  cases hw with
  | zero =>
    obtain ⟨x, hnum, hx⟩ := steady_fraction negative 0 0 hf he
    refine ⟨x, hnum, fun rest hr => ?_⟩
    have hfree := digitFree_fraction hf he hr
    rw [← hx rest hr, List.append_assoc, List.singleton_append, number.eq_def]
    dsimp only
    rw [if_pos rfl]
    cases hcs : fr ++ ex ++ rest with
    | nil => rfl
    | cons d ds =>
      rw [hcs] at hfree
      dsimp only
      rw [if_neg (by rw [hfree d rfl]; exact Bool.false_ne_true)]
  | @digits c ds hc hzero hd =>
    obtain ⟨n, k, left, hleft, htake⟩ := takeDigits_digits hd (digitValue c) 0
    obtain ⟨x, hnum, hx⟩ := steady_fraction negative n left.length hf he
    refine ⟨x, hnum, fun rest hr => ?_⟩
    have hfree := digitFree_fraction hf he hr
    rw [List.cons_append, List.cons_append, List.append_assoc, number.eq_def]
    dsimp only
    rw [if_neg hzero, if_pos hc, htake _ hfree]
    dsimp only
    rw [takeWhile_append hleft hfree, skipDigits_append hleft hfree, hx rest hr]

theorem number_unsigned (n : Number) {rest : List Char} (hr : Ends rest) :
    (number n.negative (n.unsigned ++ rest)).toOption = n.head?.map (·, rest) := by
  obtain ⟨x, -, hx⟩ := steady_number n
  have hself := hx [] (fun _ h => nomatch h)
  rw [List.append_nil] at hself
  rw [Number.head?, hself, hx rest hr]
  cases x <;> rfl

theorem numeric_head {n : Number} {h : Head} (hh : n.head? = some h) :
    (∃ k, h = .int k) ∨ ∃ y, h = .float y := by
  obtain ⟨x, hnum, hx⟩ := steady_number n
  have hself := hx [] (fun _ h => nomatch h)
  rw [List.append_nil] at hself
  rw [Number.head?, hself] at hh
  cases x with
  | error e => cases hh
  | ok y =>
    cases hh
    exact hnum y rfl

/-! A number that nobody keeps -/

theorem skip_digits {ds rest : List Char} (hne : ds ≠ []) (hd : AllDigits ds)
    (hr : DigitFree rest) : Skip.digits (ds ++ rest) = .ok rest := by
  have hskip := skipDigits_append hd hr
  obtain ⟨c, cs, rfl⟩ := List.exists_cons_of_ne_nil hne
  have hc := hd c List.mem_cons_self
  rw [List.cons_append, skipDigits, List.dropWhile_cons_of_pos hc] at hskip
  rw [List.cons_append, Skip.digits, if_pos hc, skipDigits, hskip]

theorem skip_behind {e : Char} {tail rest : List Char} (h : IsExponent (e :: tail))
    (hr : Ends rest) : isExponentMark e = true ∧ Skip.exponent (tail ++ rest) = .ok rest := by
  have hfree := digitFree_ends hr
  cases h with
  | plain he hne hd =>
    refine ⟨he, (?_ : _ = _).trans (skip_digits hne hd hfree)⟩
    obtain ⟨c, cs, rfl⟩ := List.exists_cons_of_ne_nil hne
    have hc := hd c List.mem_cons_self
    rw [List.cons_append, Skip.exponent.eq_3]
    · exact fun _ heq => digit_ne hc rfl (List.cons.inj heq).1
    · exact fun _ heq => digit_ne hc rfl (List.cons.inj heq).1
  | signed he hs hne hd =>
    rcases hs with rfl | rfl
    · exact ⟨he, skip_digits hne hd hfree⟩
    · exact ⟨he, skip_digits hne hd hfree⟩

theorem skip_exponent {ex rest : List Char} (h : IsExponent ex) (hr : Ends rest) :
    Skip.afterFraction (ex ++ rest) = .ok rest := by
  cases ex with
  | nil =>
    cases rest with
    | nil => rfl
    | cons c cs => exact if_neg (not_mark hr)
  | cons e tail =>
    obtain ⟨he, htail⟩ := skip_behind h hr
    rw [List.cons_append, Skip.afterFraction, if_pos he, htail]

theorem skip_fraction {fr ex rest : List Char} (hf : IsFraction fr) (he : IsExponent ex)
    (hr : Ends rest) : Skip.afterWhole (fr ++ ex ++ rest) = .ok rest := by
  cases hf with
  | none =>
    cases ex with
    | nil =>
      cases rest with
      | nil => rfl
      | cons c cs =>
        rw [List.nil_append, List.nil_append, Skip.afterWhole, if_neg (hr c rfl).2.1,
          if_neg (not_mark hr)]
    | cons e tail =>
      obtain ⟨hmark, htail⟩ := skip_behind he hr
      rw [List.nil_append, List.cons_append, Skip.afterWhole, if_neg (not_point hmark),
        if_pos hmark, htail]
  | point hne hd =>
    rw [List.cons_append, List.cons_append, List.append_assoc, Skip.afterWhole, if_pos rfl,
      skip_digits hne hd (digitFree_exponent he hr), ok_bind, skip_exponent he hr]

/-- A number is passed over whether or not it is in range. -/
theorem skip_number (n : Number) {rest : List Char} (hr : Ends rest) :
    Skip.number (n.unsigned ++ rest) = .ok rest := by
  obtain ⟨negative, whole, fr, ex, hw, hf, he⟩ := n
  have htail := skip_fraction hf he hr
  have hfree := digitFree_fraction hf he hr
  dsimp only [Number.unsigned]
  cases hw with
  | zero =>
    have hstart : Skip.startsWithDigit (fr ++ ex ++ rest) = false := by
      cases hcs : fr ++ ex ++ rest with
      | nil => rfl
      | cons d ds => exact hfree d (by rw [hcs]; rfl)
    rw [List.append_assoc, List.singleton_append, Skip.number, if_pos rfl, hstart,
      if_neg Bool.false_ne_true, htail]
  | @digits c ds hc hzero hd =>
    rw [List.cons_append, List.cons_append, List.append_assoc, Skip.number, if_neg hzero,
      if_pos hc, skipDigits_append hd hfree, htail]

end Intercept.Json
