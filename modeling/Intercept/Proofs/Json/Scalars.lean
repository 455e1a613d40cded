import Intercept.Json.Printer
import Intercept.Json.Scan
import Mathlib.Tactic.SplitIfs

/-!
Scalars are read as they were written. A string ends at its quote, so anything may follow it; a
number ends where nothing stands that would go on with it.
-/

namespace Intercept.Json

theorem ok_bind {ε α β : Type} (a : α) (f : α → Except ε β) : (Except.ok a >>= f) = f a := rfl

theorem ok_of_bind {ε α β : Type} {x : Except ε α} {f : α → Except ε β} {b : β}
    (h : x >>= f = .ok b) : ∃ a, x = .ok a ∧ f a = .ok b := by
  cases x with
  | error e => cases h
  | ok a => exact ⟨a, rfl, h⟩

theorem map_ok {ε α β : Type} (f : α → β) (a : α) :
    (Except.ok a : Except ε α).map f = .ok (f a) := rfl

theorem map_error {ε α β : Type} (f : α → β) (e : ε) : (Except.error e).map f = .error e := rfl

/-! Whole numbers -/

def Ends (cs : List Char) : Prop :=
  ∀ c ∈ cs.head?, c.isDigit = false ∧ c ≠ '.' ∧ isExponentMark c = false

theorem ends_cons {c : Char} (cs : List Char) (hd : c.isDigit = false) (hp : c ≠ '.')
    (he : isExponentMark c = false) : Ends (c :: cs) := by
  intro d hc
  obtain rfl : c = d := Option.some.inj hc
  exact ⟨hd, hp, he⟩

theorem ends_comma (cs : List Char) : Ends (',' :: cs) := ends_cons cs rfl (by decide) rfl

theorem ends_bracket (cs : List Char) : Ends (']' :: cs) := ends_cons cs rfl (by decide) rfl

theorem ends_brace (cs : List Char) : Ends ('\x7d' :: cs) := ends_cons cs rfl (by decide) rfl

theorem skipDigits_ends {rest : List Char} (hr : Ends rest) : skipDigits rest = rest := by
  cases rest with
  | nil => rfl
  | cons c cs =>
    obtain ⟨hd, -, -⟩ := hr c rfl
    rw [skipDigits, List.dropWhile_cons, if_neg (by rw [hd]; exact Bool.false_ne_true)]

theorem takeWhile_ends {rest : List Char} (hr : Ends rest) :
    rest.takeWhile Char.isDigit = [] := by
  cases rest with
  | nil => rfl
  | cons c cs =>
    obtain ⟨hd, -, -⟩ := hr c rfl
    rw [List.takeWhile_cons, if_neg (by rw [hd]; exact Bool.false_ne_true)]

/-- Digits only make a number larger. -/
theorem le_ofDigitChars (ds : List Char) (m : Nat) : m ≤ Nat.ofDigitChars 10 ds m := by
  rw [Nat.ofDigitChars_eq_ofDigitChars_zero]
  have hpow : 0 < 10 ^ ds.length := Nat.pos_of_neZero _
  have hle : m ≤ 10 ^ ds.length * m := Nat.le_mul_of_pos_left m hpow
  omega

theorem takeDigits_append {ds rest : List Char} (hd : ∀ c ∈ ds, c.isDigit = true)
    (hr : Ends rest) {m count : Nat} (hm : Nat.ofDigitChars 10 ds m < UInt64.size) :
    takeDigits m count (ds ++ rest) =
      (Nat.ofDigitChars 10 ds m, count + ds.length, rest) := by
  induction ds generalizing m count with
  | nil =>
    cases rest with
    | nil => rfl
    | cons c cs =>
      obtain ⟨hc, -, -⟩ := hr c rfl
      simp [takeDigits, hc]
  | cons c ds ih =>
    have hc : c.isDigit = true := hd c List.mem_cons_self
    have hv : 10 * m + (c.toNat - 48) = m * 10 + digitValue c := by
      rw [digitValue, Nat.mul_comm]
    rw [Nat.ofDigitChars_cons, show '0'.toNat = 48 from rfl, hv] at hm ⊢
    have hfits : m * 10 + digitValue c < UInt64.size :=
      Nat.lt_of_le_of_lt (le_ofDigitChars ds _) hm
    rw [List.cons_append, takeDigits, if_pos ⟨hc, hfits⟩,
      ih (fun x hx => hd x (List.mem_cons_of_mem c hx)) hm, List.length_cons]
    congr 2
    omega

/-- No number but zero begins with a zero. -/
theorem toDigits_head {n : Nat} (hn : 0 < n) :
    ∃ c cs, Nat.toDigits 10 n = c :: cs ∧ c ≠ '0' := by
  induction n using Nat.strongRecOn with
  | ind n ih =>
    rcases Nat.lt_or_ge n 10 with hlt | hge
    · refine ⟨n.digitChar, [], Nat.toDigits_of_lt_base hlt, ?_⟩
      rw [ne_eq, Nat.digitChar_eq_zero]
      omega
    · obtain ⟨c, cs, hcs, hc⟩ := ih (n / 10) (by omega) (by omega)
      refine ⟨c, cs ++ [(n % 10).digitChar], ?_, hc⟩
      rw [Nat.toDigits_of_base_le (by decide) hge, hcs]
      rfl

theorem isDigit_toDigits {n : Nat} {c : Char} (hc : c ∈ Nat.toDigits 10 n) : c.isDigit = true :=
  Nat.isDigit_of_mem_toDigits (by decide) (by decide) hc

theorem afterWhole_ends {negative : Bool} {m : Nat} {rest : List Char} (hr : Ends rest) :
    afterWhole negative m 0 rest = (whole negative m).map (·, rest) := by
  cases rest with
  | nil =>
    simp only [afterWhole, if_pos]
    cases whole negative m <;> rfl
  | cons c cs =>
    obtain ⟨-, hp, he⟩ := hr c rfl
    simp only [afterWhole, if_neg hp, he, Bool.false_eq_true, if_false, if_pos]
    cases whole negative m <;> rfl

theorem number_toDigits {negative : Bool} {n : Nat} {rest : List Char} (hn : n < UInt64.size)
    (hr : Ends rest) :
    number negative (Nat.toDigits 10 n ++ rest) = (whole negative n).map (·, rest) := by
  rcases Nat.eq_zero_or_pos n with rfl | hpos
  · rw [Nat.toDigits_zero, ← afterWhole_ends hr]
    cases rest with
    | nil => rfl
    | cons c cs =>
      obtain ⟨hc, -, -⟩ := hr c rfl
      simp [number, hc]
  · obtain ⟨c, cs, hcs, hc⟩ := toDigits_head hpos
    have hdigit : ∀ x ∈ c :: cs, x.isDigit = true := fun x hx => isDigit_toDigits (hcs ▸ hx)
    have hvalue : Nat.ofDigitChars 10 cs (digitValue c) = n := by
      have h := Nat.ofDigitChars_ten_toDigits (n := n)
      rwa [hcs, Nat.ofDigitChars_cons, Nat.mul_zero, Nat.zero_add] at h
    have htake (count : Nat) :
        takeDigits (digitValue c) count (cs ++ rest) = (n, count + cs.length, rest) := by
      rw [takeDigits_append (fun x hx => hdigit x (List.mem_cons_of_mem c hx)) hr
        (by rwa [hvalue]), hvalue]
    simp only [hcs, List.cons_append, number, if_neg hc, if_pos (hdigit c List.mem_cons_self),
      htake, takeWhile_ends hr, List.length_nil, skipDigits_ends hr, afterWhole_ends hr]

def Fits (n : Int) : Prop := -(Int64.size / 2 : Nat) ≤ n ∧ n < UInt64.size

theorem isSpace_digit {c : Char} (hc : c.isDigit = true) : isSpace c = false := by
  rw [isSpace, Bool.or_eq_false_iff, Bool.or_eq_false_iff, Bool.or_eq_false_iff]
  refine ⟨⟨⟨?_, ?_⟩, ?_⟩, ?_⟩ <;>
    · rw [beq_eq_false_iff_ne]
      rintro rfl
      exact absurd hc (by decide)

theorem skipSpace_cons {c : Char} (cs : List Char) (hc : isSpace c = false) :
    skipSpace (c :: cs) = c :: cs := by
  rw [skipSpace, List.dropWhile_cons, if_neg (by rw [hc]; exact Bool.false_ne_true)]

theorem head_digit {c : Char} (cs : List Char) (hc : c.isDigit = true) :
    head (c :: cs) = number false (c :: cs) := by
  have other {d : Char} (hd : d.isDigit = false) : c ≠ d := by
    rintro rfl
    rw [hc] at hd
    cases hd
  have hn : c ≠ 'n' := other rfl
  have ht : c ≠ 't' := other rfl
  have hf : c ≠ 'f' := other rfl
  have hm : c ≠ '-' := other rfl
  simp only [head, skipSpace_cons cs (isSpace_digit hc), if_neg hn, if_neg ht, if_neg hf, if_neg hm,
    if_pos hc]

theorem head_int {n : Int} (hn : Fits n) {rest : List Char} (hr : Ends rest) :
    head (intChars n ++ rest) = .ok (.int n, rest) := by
  obtain ⟨hlo, hhi⟩ := hn
  have hfits : n.natAbs < UInt64.size := by
    simp only [Int64.size, UInt64.size] at *
    omega
  unfold intChars
  split
  · rename_i hneg
    have hhead : head ('-' :: (Nat.toDigits 10 n.natAbs ++ rest)) =
        number true (Nat.toDigits 10 n.natAbs ++ rest) := rfl
    have hw : whole true n.natAbs = .ok (.int n) := by
      have hbound : 0 < n.natAbs ∧ n.natAbs ≤ Int64.size / 2 := by omega
      have hval : -(n.natAbs : Int) = n := by omega
      rw [whole, if_neg (by decide), if_pos hbound, hval]
    rw [List.cons_append, hhead, number_toDigits hfits hr, hw]
    rfl
  · rename_i hneg
    have hw : whole false n.natAbs = .ok (.int n) := by
      have hval : (n.natAbs : Int) = n := by omega
      rw [whole, if_pos (by decide), hval]
    have hne : Nat.toDigits 10 n.natAbs ≠ [] := Nat.toDigits_ne_nil
    obtain ⟨c, cs, hcs⟩ := List.exists_cons_of_ne_nil hne
    have hc : c.isDigit = true := isDigit_toDigits (hcs ▸ List.mem_cons_self)
    have hnum : number false (c :: (cs ++ rest)) = (whole false n.natAbs).map (·, rest) := by
      rw [← number_toDigits hfits hr, hcs, List.cons_append]
    rw [hcs, List.cons_append, head_digit _ hc, hnum, hw, map_ok]

/-! Strings -/

theorem hexValue_hexDigit : ∀ n < 16, hexValue? (hexDigit n) = some n := by decide

theorem hexEscape_low {n : Nat} (hn : n < 32) (rest : List Char) :
    hexEscape ('0' :: '0' :: hexDigit (n / 16) :: hexDigit (n % 16) :: rest) = .ok (n, rest) := by
  have hzero : hexValue? '0' = some 0 := rfl
  simp only [hexEscape, hzero, hexValue_hexDigit (n / 16) (by omega),
    hexValue_hexDigit (n % 16) (by omega)]
  congr 2
  omega

theorem unicodeEscape_low {c : Char} (hc : c.toNat < 32) (rest : List Char) :
    unicodeEscape ('0' :: '0' :: hexDigit (c.toNat / 16) :: hexDigit (c.toNat % 16) :: rest) =
      .ok (c, rest) := by
  rw [unicodeEscape, hexEscape_low hc]
  change (if 0xDC00 ≤ c.toNat ∧ c.toNat ≤ 0xDFFF then _ else _) = _
  rw [if_neg (by omega), if_neg (by omega), Char.ofNat_toNat]

/-- A character is escaped by a letter or by its number, or it stands for itself. -/
theorem escapeChar_cases (c : Char) :
    (∃ d, escapeChar c = ['\\', d] ∧ shortEscape? d = some c ∧ d ≠ 'u') ∨
    (escapeChar c =
        ['\\', 'u', '0', '0', hexDigit (c.toNat / 16), hexDigit (c.toNat % 16)] ∧
      c.toNat < 32) ∨
    (escapeChar c = [c] ∧ c ≠ '"' ∧ c ≠ '\\' ∧ ¬ c.toNat < 32) := by
  have byLetter {x d : Char} (hs : shortEscape? d = some x) (hu : d ≠ 'u') :
      ∃ y, ['\\', d] = ['\\', y] ∧ shortEscape? y = some x ∧ y ≠ 'u' := ⟨d, rfl, hs, hu⟩
  unfold escapeChar
  split_ifs with h₁ h₂ h₃ h₄ h₅ h₆ h₇ h₈
  · exact .inl (byLetter (by rw [h₁]; rfl) (by decide))
  · exact .inl (byLetter (by rw [h₂]; rfl) (by decide))
  · exact .inl (byLetter (by rw [h₃]; rfl) (by decide))
  · exact .inl (byLetter (by rw [h₄]; rfl) (by decide))
  · exact .inl (byLetter (by rw [h₅]; rfl) (by decide))
  · exact .inl (byLetter (by rw [h₆]; rfl) (by decide))
  · exact .inl (byLetter (by rw [h₇]; rfl) (by decide))
  · exact .inr (.inl ⟨rfl, h₈⟩)
  · exact .inr (.inr ⟨rfl, h₁, h₂, h₈⟩)

theorem stringRest_escape {x : Char} {cs rest : List Char} (h : escape cs = .ok (x, rest))
    (fuel : Nat) :
    stringRest (fuel + 1) ('\\' :: cs) = (stringRest fuel rest).map fun r => (x :: r.1, r.2) := by
  rw [stringRest, if_neg (by decide), if_pos rfl, h, ok_bind]
  dsimp only
  cases stringRest fuel rest <;> rfl

/-- One character of a string, written and read again. -/
theorem stringRest_escapeChar (fuel : Nat) (c : Char) (rest : List Char) :
    stringRest (fuel + 1) (escapeChar c ++ rest) =
      (stringRest fuel rest).map fun r => (c :: r.1, r.2) := by
  rcases escapeChar_cases c with ⟨d, he, hs, hu⟩ | ⟨he, hlow⟩ | ⟨he, hquote, hslash, hlow⟩
  · have hd : escape (d :: rest) = .ok (c, rest) := by rw [escape, if_neg hu, hs]
    rw [he]
    exact stringRest_escape hd fuel
  · have hu (cs : List Char) : escape ('u' :: cs) = unicodeEscape cs := rfl
    rw [he]
    exact stringRest_escape ((hu _).trans (unicodeEscape_low hlow rest)) fuel
  · rw [he, List.singleton_append, stringRest, if_neg hquote, if_neg hslash, if_neg hlow]
    cases stringRest fuel rest <;> rfl

theorem stringRest_escaped (cs rest : List Char) {fuel : Nat} (hf : cs.length < fuel) :
    stringRest fuel (cs.flatMap escapeChar ++ '"' :: rest) = .ok (cs, rest) := by
  induction cs generalizing fuel with
  | nil =>
    obtain ⟨k, rfl⟩ := Nat.exists_eq_add_of_lt hf
    rfl
  | cons c cs ih =>
    obtain ⟨k, rfl⟩ := Nat.exists_eq_add_of_lt hf
    rw [List.flatMap_cons, List.append_assoc, stringRest_escapeChar,
      ih (by rw [List.length_cons]; omega), map_ok]

theorem length_le_escaped (cs : List Char) : cs.length ≤ (cs.flatMap escapeChar).length := by
  induction cs with
  | nil => exact Nat.le_refl 0
  | cons c cs ih =>
    have hc : 0 < (escapeChar c).length := by
      rcases escapeChar_cases c with ⟨d, he, -⟩ | ⟨he, -⟩ | ⟨he, -⟩ <;>
        · rw [he]
          exact Nat.succ_pos _
    rw [List.flatMap_cons, List.length_append, List.length_cons]
    omega

theorem string_escaped (s : String) (rest : List Char) :
    string (s.toList.flatMap escapeChar ++ '"' :: rest) = .ok (s, rest) := by
  have hle := length_le_escaped s.toList
  have hfuel : s.toList.length < (s.toList.flatMap escapeChar ++ '"' :: rest).length := by
    rw [List.length_append, List.length_cons]
    omega
  rw [string, stringRest_escaped s.toList rest hfuel, ok_bind]
  exact congrArg (fun t => Except.ok (t, rest)) String.ofList_toList

theorem quote_append (s : String) (rest : List Char) :
    quote s ++ rest = '"' :: (s.toList.flatMap escapeChar ++ '"' :: rest) := by
  simp [quote]

theorem head_quote (s : String) (rest : List Char) :
    head (quote s ++ rest) = .ok (.str s, rest) := by
  have hhead (cs : List Char) : head ('"' :: cs) = (string cs).map fun r => (.str r.1, r.2) := by
    change (string cs >>= fun r => Except.ok (Head.str r.1, r.2)) = _
    cases string cs <;> rfl
  rw [quote_append, hhead, string_escaped, map_ok]

end Intercept.Json
