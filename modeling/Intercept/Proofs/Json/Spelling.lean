import Intercept.Proofs.Json.Lexing
import Mathlib.Data.List.DropRight

/-!
What was read was spelt as the syntax has it. A string was spelt in pieces and a number in digits,
for the reader that keeps them as for the one that does not.
-/

namespace Intercept.Json

theorem literal_spelt {ws cs rest : List Char} (h : literal ws cs = .ok rest) :
    cs = ws ++ rest := by
  fun_induction literal ws cs with
  | case1 cs => exact Except.ok.inj h
  | case2 => cases h
  | case3 ws c cs ih => rw [ih h, List.cons_append]
  | case4 => cases h

/-! Strings -/

theorem hexEscape_spelt {cs rest : List Char} {n : Nat} (h : hexEscape cs = .ok (n, rest)) :
    ∃ a b c d : HexDigit, Piece.number a b c d = n ∧
      cs = a.char :: b.char :: c.char :: d.char :: rest := by
  unfold hexEscape at h
  split at h
  · split at h
    · rename_i ha hb hc hd
      cases h
      exact ⟨⟨_, _, ha⟩, ⟨_, _, hb⟩, ⟨_, _, hc⟩, ⟨_, _, hd⟩, rfl, rfl⟩
    · cases h
  · split at h <;> cases h

theorem lowHalf_spelt {high : Nat} {cs rest : List Char} {x : Char}
    (h : lowHalf high cs = .ok (x, rest)) :
    ∃ a b c d : HexDigit, cs = (Piece.unit a b c d).chars ++ rest := by
  unfold lowHalf at h
  split at h
  · cases h
  · cases h
  · obtain ⟨⟨low, left⟩, hhex, h⟩ := ok_of_bind h
    dsimp only at h
    split at h
    · obtain ⟨-, rfl⟩ := Prod.mk.inj (Except.ok.inj h)
      obtain ⟨a, b, c, d, -, rfl⟩ := hexEscape_spelt hhex
      exact ⟨a, b, c, d, rfl⟩
    · cases h
  · cases h

/-- A backslash and what is read behind it make up one piece, or two for the halves of a pair. -/
theorem escape_spelt {cs rest : List Char} {x : Char} (h : escape cs = .ok (x, rest)) :
    ∃ ps : List Piece, '\\' :: cs = ps.flatMap Piece.chars ++ rest := by
  unfold escape at h
  split at h
  · cases h
  · rename_i c cs
    split_ifs at h with hu
    · subst hu
      obtain ⟨⟨n, left⟩, hhex, htail⟩ := ok_of_bind h
      obtain ⟨a, b, c, d, -, rfl⟩ := hexEscape_spelt hhex
      dsimp only at htail
      split_ifs at htail
      · obtain ⟨a', b', c', d', rfl⟩ := lowHalf_spelt htail
        exact ⟨[.unit a b c d, .unit a' b' c' d'], rfl⟩
      · obtain ⟨-, rfl⟩ := Prod.mk.inj (Except.ok.inj htail)
        exact ⟨[.unit a b c d], rfl⟩
    · split at h
      · rename_i y hy
        cases h
        exact ⟨[.letter c _ hy], rfl⟩
      · cases h

theorem stringRest_spelling {fuel : Nat} {cs xs rest : List Char}
    (h : stringRest fuel cs = .ok (xs, rest)) :
    ∃ ps : List Piece, cs = ps.flatMap Piece.chars ++ '"' :: rest := by
  induction fuel generalizing cs xs with
  | zero => cases h
  | succ fuel ih =>
    cases cs with
    | nil => cases h
    | cons c cs =>
      rw [stringRest] at h
      split_ifs at h with hquote hslash hcontrol
      · cases h
        exact ⟨[], by rw [hquote]; rfl⟩
      · subst hslash
        obtain ⟨⟨x, left⟩, hesc, h⟩ := ok_of_bind h
        obtain ⟨⟨ys, after⟩, hrest, h⟩ := ok_of_bind h
        cases h
        obtain ⟨ps, hps⟩ := escape_spelt hesc
        obtain ⟨qs, rfl⟩ := ih hrest
        exact ⟨ps ++ qs, by rw [hps, List.flatMap_append, List.append_assoc]⟩
      · obtain ⟨⟨ys, after⟩, hrest, h⟩ := ok_of_bind h
        cases h
        obtain ⟨qs, rfl⟩ := ih hrest
        exact ⟨.plain c ⟨hquote, hslash, hcontrol⟩ :: qs, rfl⟩

theorem string_quoted {cs rest : List Char} {s : String} (h : string cs = .ok (s, rest)) :
    ∃ ps : List Piece, '"' :: cs = Piece.quoted ps ++ rest := by
  obtain ⟨⟨xs, after⟩, hrest, h⟩ := ok_of_bind h
  cases h
  obtain ⟨ps, rfl⟩ := stringRest_spelling hrest
  exact ⟨ps, by rw [Piece.quoted, List.cons_append, List.append_assoc]; rfl⟩

theorem skip_stringRest_spelling {fuel : Nat} {cs rest : List Char}
    (h : Skip.stringRest fuel cs = .ok rest) :
    ∃ ps : List Piece, cs = ps.flatMap Piece.chars ++ '"' :: rest := by
  induction fuel generalizing cs with
  | zero => cases h
  | succ fuel ih =>
    cases cs with
    | nil => cases h
    | cons c cs =>
      unfold Skip.stringRest at h
      split_ifs at h with hquote hslash hcontrol
      · cases h
        exact ⟨[], by rw [hquote]; rfl⟩
      · subst hslash
        split at h
        · cases h
        · rename_i d ds
          split_ifs at h with hu hletter
          · subst hu
            split at h
            · cases h
            · rename_i hhex
              obtain ⟨a, b, c, d, -, rfl⟩ := hexEscape_spelt hhex
              obtain ⟨ps, rfl⟩ := ih h
              exact ⟨.unit a b c d :: ps, rfl⟩
          · obtain ⟨x, hx⟩ := Option.isSome_iff_exists.mp hletter
            obtain ⟨ps, rfl⟩ := ih h
            exact ⟨.letter d x hx :: ps, rfl⟩
      · obtain ⟨ps, rfl⟩ := ih h
        exact ⟨.plain c ⟨hquote, hslash, hcontrol⟩ :: ps, rfl⟩

theorem skip_string_quoted {cs rest : List Char} (h : Skip.string cs = .ok rest) :
    ∃ ps : List Piece, '"' :: cs = Piece.quoted ps ++ rest := by
  obtain ⟨ps, rfl⟩ := skip_stringRest_spelling h
  exact ⟨ps, by rw [Piece.quoted, List.cons_append, List.append_assoc]; rfl⟩

/-! Numbers -/

/-- The digits that stand here, and what follows them. -/
theorem skipDigits_spelt (cs : List Char) : ∃ ds, AllDigits ds ∧ cs = ds ++ skipDigits cs :=
  ⟨cs.takeWhile Char.isDigit, fun _ => List.mem_takeWhile_imp,
    List.takeWhile_append_dropWhile.symm⟩

theorem skip_digits_spelt {cs rest : List Char} (h : Skip.digits cs = .ok rest) :
    ∃ ds, ds ≠ [] ∧ AllDigits ds ∧ cs = ds ++ rest := by
  cases cs with
  | nil => cases h
  | cons c cs =>
    rw [Skip.digits] at h
    split_ifs at h with hc
    cases h
    obtain ⟨ds, hds, hcs⟩ := skipDigits_spelt cs
    refine ⟨c :: ds, List.cons_ne_nil c ds, List.forall_mem_cons.mpr ⟨hc, hds⟩, ?_⟩
    rw [List.cons_append, ← hcs]

theorem skip_exponent_spelt {e : Char} (he : isExponentMark e = true) {cs rest : List Char}
    (h : Skip.exponent cs = .ok rest) : ∃ ex, IsExponent (e :: ex) ∧ cs = ex ++ rest := by
  unfold Skip.exponent at h
  split at h
  · obtain ⟨ds, hne, hds, rfl⟩ := skip_digits_spelt h
    exact ⟨'+' :: ds, .signed he (.inl rfl) hne hds, rfl⟩
  · obtain ⟨ds, hne, hds, rfl⟩ := skip_digits_spelt h
    exact ⟨'-' :: ds, .signed he (.inr rfl) hne hds, rfl⟩
  · obtain ⟨ds, hne, hds, rfl⟩ := skip_digits_spelt h
    exact ⟨ds, .plain he hne hds, rfl⟩

theorem skip_afterFraction_spelt {cs rest : List Char} (h : Skip.afterFraction cs = .ok rest) :
    ∃ ex, IsExponent ex ∧ cs = ex ++ rest := by
  cases cs with
  | nil =>
    cases h
    exact ⟨[], .none, rfl⟩
  | cons c cs =>
    rw [Skip.afterFraction] at h
    split_ifs at h with hmark
    · obtain ⟨ex, hex, rfl⟩ := skip_exponent_spelt hmark h
      exact ⟨c :: ex, hex, rfl⟩
    · cases h
      exact ⟨[], .none, rfl⟩

theorem skip_afterWhole_spelt {cs rest : List Char} (h : Skip.afterWhole cs = .ok rest) :
    ∃ fr ex, IsFraction fr ∧ IsExponent ex ∧ cs = fr ++ (ex ++ rest) := by
  cases cs with
  | nil =>
    cases h
    exact ⟨[], [], .none, .none, rfl⟩
  | cons c cs =>
    rw [Skip.afterWhole] at h
    split_ifs at h with hpoint hmark
    · subst hpoint
      obtain ⟨left, hdigits, htail⟩ := ok_of_bind h
      obtain ⟨ds, hne, hds, rfl⟩ := skip_digits_spelt hdigits
      obtain ⟨ex, hex, rfl⟩ := skip_afterFraction_spelt htail
      exact ⟨'.' :: ds, ex, .point hne hds, hex, rfl⟩
    · obtain ⟨ex, hex, rfl⟩ := skip_exponent_spelt hmark h
      exact ⟨[], c :: ex, .none, hex, rfl⟩
    · cases h
      exact ⟨[], [], .none, .none, rfl⟩

theorem skip_number_spelt (negative : Bool) {cs rest : List Char}
    (h : Skip.number cs = .ok rest) :
    ∃ n : Number, n.negative = negative ∧ cs = n.unsigned ++ rest := by
  have hnumber {w left : List Char} (hw : IsWhole w) (hleft : Skip.afterWhole left = .ok rest) :
      ∃ n : Number, n.negative = negative ∧ w ++ left = n.unsigned ++ rest := by
    obtain ⟨fr, ex, hfr, hex, rfl⟩ := skip_afterWhole_spelt hleft
    refine ⟨⟨negative, w, fr, ex, hw, hfr, hex⟩, rfl, ?_⟩
    rw [Number.unsigned, List.append_assoc, List.append_assoc]
  cases cs with
  | nil => cases h
  | cons c cs =>
    rw [Skip.number] at h
    split_ifs at h with hzero hdigit hc
    · subst hzero
      exact hnumber .zero h
    · obtain ⟨ds, hds, hcs⟩ := skipDigits_spelt cs
      rw [hcs]
      exact hnumber (.digits hc hzero hds) h

/-! A number that is kept is passed over as well -/

theorem skipDigits_takeDigits (m count : Nat) (cs : List Char) :
    skipDigits (takeDigits m count cs).2.2 = skipDigits cs := by
  fun_induction takeDigits m count cs with
  | case1 => rfl
  | case2 m count c cs h ih => rw [ih, skipDigits, skipDigits, List.dropWhile_cons_of_pos h.1]
  | case3 => rfl

theorem digits_of_need {cs : List Char} (h : needDigit cs = .ok ()) :
    Skip.digits cs = .ok (skipDigits cs) := by
  cases cs with
  | nil => cases h
  | cons c cs =>
    rw [needDigit] at h
    split_ifs at h with hc
    rw [Skip.digits, if_pos hc, skipDigits, skipDigits, List.dropWhile_cons_of_pos hc]

variable {negative : Bool} {x : Head} {cs rest : List Char}

theorem exponent_skip {m : Nat} {power : Int}
    (h : exponent negative m power cs = .ok (x, rest)) :
    Skip.exponent cs = .ok rest ∧ Numeric (.ok x) := by
  have hdigits (down : Bool) {ds : List Char} (h : (do
      needDigit ds
      let n : Int := Nat.ofDigitChars 10 (ds.takeWhile Char.isDigit) 0
      let x ← scaled negative m (if down then power - n else power + n)
      .ok (x, skipDigits ds)) = Except.ok (x, rest)) :
      Skip.digits ds = .ok rest ∧ Numeric (.ok x) := by
    obtain ⟨⟨⟩, hneed, h⟩ := ok_of_bind h
    obtain ⟨y, hy, h⟩ := ok_of_bind h
    cases h
    exact ⟨digits_of_need hneed, hy ▸ numeric_scaled _ _ _⟩
  unfold Skip.exponent
  split
  · exact hdigits false h
  · exact hdigits true h
  · rename_i hplus hminus
    rw [exponent.eq_3 _ _ _ _ hplus hminus] at h
    exact hdigits false h

theorem afterFraction_skip {m : Nat} {power : Int}
    (h : afterFraction negative m power cs = .ok (x, rest)) :
    Skip.afterFraction cs = .ok rest ∧ Numeric (.ok x) := by
  cases cs with
  | nil =>
    obtain ⟨y, hy, h⟩ := ok_of_bind h
    cases h
    exact ⟨rfl, hy ▸ numeric_scaled _ _ _⟩
  | cons c cs =>
    rw [afterFraction] at h
    rw [Skip.afterFraction]
    split_ifs at h ⊢
    · exact exponent_skip h
    · obtain ⟨y, hy, h⟩ := ok_of_bind h
      cases h
      exact ⟨rfl, hy ▸ numeric_scaled _ _ _⟩

theorem afterWhole_skip {m dropped : Nat}
    (h : afterWhole negative m dropped cs = .ok (x, rest)) :
    Skip.afterWhole cs = .ok rest ∧ Numeric (.ok x) := by
  cases cs with
  | nil =>
    rw [afterWhole] at h
    split_ifs at h
    · obtain ⟨y, hy, h⟩ := ok_of_bind h
      cases h
      exact ⟨rfl, hy ▸ numeric_whole _ _⟩
    · obtain ⟨y, hy, h⟩ := ok_of_bind h
      cases h
      exact ⟨rfl, hy ▸ numeric_scaled _ _ _⟩
  | cons c cs =>
    rw [afterWhole] at h
    rw [Skip.afterWhole]
    split_ifs at h ⊢
    · obtain ⟨⟨⟩, hneed, h⟩ := ok_of_bind h
      obtain ⟨htail, hx⟩ := afterFraction_skip h
      rw [skipDigits_takeDigits] at htail
      rw [digits_of_need hneed]
      exact ⟨htail, hx⟩
    · exact exponent_skip h
    · obtain ⟨y, hy, h⟩ := ok_of_bind h
      cases h
      exact ⟨rfl, hy ▸ numeric_whole _ _⟩
    · obtain ⟨y, hy, h⟩ := ok_of_bind h
      cases h
      exact ⟨rfl, hy ▸ numeric_scaled _ _ _⟩

theorem number_skip (h : number negative cs = .ok (x, rest)) :
    Skip.number cs = .ok rest ∧ Numeric (.ok x) := by
  cases cs with
  | nil => cases h
  | cons c cs =>
    rw [number.eq_def] at h
    rw [Skip.number]
    dsimp only at h
    split_ifs at h with hzero hc
    · rw [if_pos hzero]
      cases cs with
      | nil => exact afterWhole_skip h
      | cons d ds =>
        dsimp only at h
        rw [Skip.startsWithDigit]
        split_ifs at h ⊢
        exact afterWhole_skip h
    · obtain ⟨htail, hx⟩ := afterWhole_skip h
      rw [skipDigits_takeDigits] at htail
      rw [if_neg hzero, if_pos hc]
      exact ⟨htail, hx⟩

end Intercept.Json
