import Intercept.Proofs.Text.Composition
import Intercept.Url.Domain

/-!
Names have one spelling: what a name is made into is made into itself. A table of the program moves
a character to others that no table moves, and a letter stands for itself just if its parts do.
-/

namespace Intercept.Url.Domain

open Text

def allRows : List (Nat × List (List Nat)) :=
  letterRows ++ (arabicRows ++ (symbolRows ++ (squareRows ++ (ideographRows ++ formRows))))

theorem otherForm?_eq (n : Nat) :
    otherForm? n = ((shifted? n).map ([·])).or (rowed? allRows n) := by
  simp only [otherForm?, rowed?, allRows, List.findSome?_append]

def formMask : Nat :=
  Ranges.mask (shifts.map fun s => (s.1, s.2.1)) |||
    unionMask (fun r => spanMask r.1 r.2.length) allRows

def targetMask : Nat :=
  unionMask (fun s => spanMask s.2.2 (s.2.1 + 1 - s.1)) shifts |||
    pointMask (allRows.flatMap (·.2.flatten))

/-- The large letters of the tables, each with its small one. -/
def capitalPairs : List (Nat × Nat) :=
  capitals.flatMap fun r => ((List.range (r.2.1 + 1 - r.1)).filter (· % r.2.2.1 == 0)).map fun i =>
    (r.1 + i, (((r.1 + i : Nat) : Int) + r.2.2.2).toNat)

/-- The large letters that do not stay; the dotted one becomes two characters. -/
def capitalMask : Nat :=
  pointMask (0x130 :: (capitalPairs.map (·.1)).filter fun n => n < 0x13A0 || 0x13F5 < n)

def refusedMask : Nat := Ranges.mask (refusedBelow2000 ++ refusedBelow10000 ++ refusedAbove)

def awayMask : Nat := leftOut.mask ||| formMask ||| refusedMask

def movedMask : Nat := awayMask ||| capitalMask

/-- Whether a name holds the character as it is. -/
def Stays (n : Nat) : Prop := movedMask.testBit n = false

theorem stays_iff {n : Nat} : Stays n ↔ leftOut.mask.testBit n = false ∧
    formMask.testBit n = false ∧ refusedMask.testBit n = false ∧
      capitalMask.testBit n = false := by
  simp only [Stays, movedMask, awayMask, Nat.testBit_or, Bool.or_eq_false_iff, and_assoc]

/-- All that is checked of the tables, in one evaluation: the other forms have none themselves, the
parts of the refused ranges are where they are looked for, an ASCII character is away from the
tables unless it is large, a small letter stays, a whole does so just if its parts do, and so do the
syllables, the jamo, the dot above and the ideographs of the second plane. -/
theorem tables_checked :
    targetMask &&& movedMask = 0 ∧
      ((refusedBelow2000.all fun r => decide (r.2 < 0x2000)) = true ∧
        (refusedBelow10000.all fun r => decide (0x2000 ≤ r.1) && decide (r.2 < 0x10000)) = true ∧
        (refusedAbove.all fun r => decide (0x10000 ≤ r.1)) = true) ∧
      (awayMask &&& runMask 0 0x7F = 0 ∧ capitalMask &&& runMask 0 0x7F = runMask 0x41 0x5A) ∧
      (capitalPairs.all fun p => awayMask.testBit p.1 ||
        decide (0x13A0 ≤ p.1 ∧ p.1 ≤ 0x13F5) || !movedMask.testBit p.2) = true ∧
      (rules.all fun r => movedMask.testBit r.2.2 ==
        (movedMask.testBit r.1 || movedMask.testBit r.2.1)) = true ∧
      (movedMask &&& runMask 0xAC00 0xD7A3 = 0 ∧ movedMask &&& runMask 0x1100 0x115E = 0 ∧
        movedMask &&& runMask 0x1161 0x11FF = 0) ∧
      movedMask.testBit 0x307 = false ∧ movedMask &&& runMask 0x20000 0x2A6D6 = 0 := by
  decide +kernel

/-! ### What the tables say -/

theorem shifted?_eq_some {n t : Nat} (h : shifted? n = some t) :
    formMask.testBit n = true ∧ targetMask.testBit t = true := by
  obtain ⟨⟨first, last, target⟩, hfind, rfl⟩ := Option.map_eq_some_iff.1 h
  have hmem := List.mem_of_find?_eq_some hfind
  have hin : first ≤ n ∧ n ≤ last := by simpa using List.find?_some hfind
  refine ⟨?_, ?_⟩
  · rw [formMask, Nat.testBit_or, Ranges.testBit_mask, Bool.or_eq_true, List.any_eq_true]
    exact .inl ⟨(first, last), List.mem_map.2 ⟨_, hmem, rfl⟩, by simpa using hin⟩
  · have hspan := testBit_spanMask target (last + 1 - first) (target + (n - first))
    rw [targetMask, Nat.testBit_or, testBit_unionMask, Bool.or_eq_true, List.any_eq_true]
    exact .inl ⟨_, hmem, by rw [hspan]; simp; omega⟩

theorem rowed?_eq_some {n : Nat} {codes : List Nat} (h : rowed? allRows n = some codes) :
    formMask.testBit n = true ∧ ∀ t ∈ codes, targetMask.testBit t = true := by
  obtain ⟨⟨first, row⟩, hmem, hrow⟩ := List.exists_of_findSome?_eq_some h
  obtain ⟨hle, hrow⟩ : first ≤ n ∧ row[n - first]? = some codes := by simpa using hrow
  obtain ⟨hlt, hget⟩ := List.getElem?_eq_some_iff.1 hrow
  refine ⟨?_, fun t ht => ?_⟩
  · rw [formMask, Nat.testBit_or, testBit_unionMask, Bool.or_eq_true, List.any_eq_true]
    exact .inr ⟨_, hmem, by rw [testBit_spanMask]; simp; omega⟩
  · rw [targetMask, Nat.testBit_or, testBit_pointMask, Bool.or_eq_true, decide_eq_true_eq]
    refine .inr (List.mem_flatMap.2 ⟨_, hmem, List.mem_flatten.2 ⟨codes, ?_, ht⟩⟩)
    exact hget ▸ List.getElem_mem hlt

theorem otherForm?_eq_some {n : Nat} {codes : List Nat} (h : otherForm? n = some codes) :
    formMask.testBit n = true ∧ ∀ t ∈ codes, targetMask.testBit t = true := by
  rw [otherForm?_eq, Option.or_eq_some_iff] at h
  rcases h with h | ⟨-, h⟩
  · obtain ⟨t, ht, rfl⟩ := Option.map_eq_some_iff.1 h
    have := shifted?_eq_some ht
    simpa using this
  · exact rowed?_eq_some h

theorem otherForm?_eq_none {n : Nat} (h : otherForm? n = none) : formMask.testBit n = false := by
  rw [otherForm?_eq, Option.or_eq_none_iff, Option.map_eq_none_iff] at h
  obtain ⟨hs, hr⟩ := h
  rw [formMask, Nat.testBit_or, Ranges.testBit_mask, testBit_unionMask, Bool.or_eq_false_iff,
    List.any_eq_false, List.any_eq_false]
  refine ⟨fun r hr => ?_, ?_⟩
  · obtain ⟨s, hmem, rfl⟩ := List.mem_map.1 hr
    rw [shifted?, Option.map_eq_none_iff, List.find?_eq_none] at hs
    exact hs s hmem
  · rintro ⟨first, row⟩ hmem
    have hnone := List.findSome?_eq_none_iff.1 hr _ hmem
    rw [testBit_spanMask]
    simp only [Bool.and_eq_true, decide_eq_true_eq, not_and]
    intro hle
    have hget : row[n - first]? = none := by simpa [hle] using hnone
    rw [List.getElem?_eq_none_iff] at hget
    omega

theorem targets_stay {t : Nat} (h : targetMask.testBit t = true) : Stays t :=
  testBit_false_of_and_eq_zero tables_checked.1 h

theorem isRefused_eq {c : Char} (h : 0x80 ≤ c.toNat) :
    isRefused c = refusedMask.testBit c.toNat := by
  obtain ⟨-, ⟨hlow, hmid, hhigh⟩, -⟩ := tables_checked
  simp only [List.all_eq_true, Bool.and_eq_true, decide_eq_true_eq] at hlow hmid hhigh
  have hparts : refusedMask.testBit c.toNat =
      (refusedBelow2000.has c || refusedBelow10000.has c || refusedAbove.has c) := by
    rw [refusedMask, Ranges.testBit_mask, List.any_append, List.any_append]
    rfl
  have hout (ranges : Ranges) (h : ∀ r ∈ ranges, ¬(r.1 ≤ c.toNat ∧ c.toNat ≤ r.2)) :
      ranges.has c = false := by
    rw [Ranges.has, List.any_eq_false]
    intro r hr
    simpa using h r hr
  rw [hparts, isRefused, if_neg (by omega)]
  split
  · rw [hout refusedBelow10000 fun r hr => by have := hmid r hr; omega,
      hout refusedAbove fun r hr => by have := hhigh r hr; omega, Bool.or_false, Bool.or_false]
  · split
    · rw [hout refusedBelow2000 fun r hr => by have := hlow r hr; omega,
        hout refusedAbove fun r hr => by have := hhigh r hr; omega, Bool.false_or, Bool.or_false]
    · rw [hout refusedBelow2000 fun r hr => by have := hlow r hr; omega,
        hout refusedBelow10000 fun r hr => by have := hmid r hr; omega, Bool.false_or]
      rfl

theorem stays_ascii {n : Nat} (h : n < 0x80) : Stays n ↔ n < 0x41 ∨ 0x5A < n := by
  obtain ⟨-, -, ⟨hmask, hlow⟩, -⟩ := tables_checked
  have haway : awayMask.testBit n = false :=
    testBit_false_of_run 0 0x7F hmask (Nat.zero_le n) (by omega)
  have hbit := congrArg (·.testBit n) hlow
  simp only [Nat.testBit_and, testBit_runMask, Nat.zero_le, decide_true,
    decide_eq_true (show n ≤ 0x7F by omega), Bool.and_true] at hbit
  rw [Stays, movedMask, Nat.testBit_or, haway, hbit, Bool.false_or, Bool.and_eq_false_iff]
  simp

theorem stays_ofNat {n : Nat} (h : Stays n) : Stays (Char.ofNat n).toNat := by
  by_cases hv : n.isValidChar
  · rwa [toNat_ofNat hv]
  · rw [Char.ofNat, dif_neg hv]
    exact (stays_ascii (by decide)).2 (by decide)

/-! ### Large letters -/

def capital? (n : Nat) : Option (Nat × Nat × Nat × Int) :=
  capitals.find? fun r => decide (r.1 ≤ n) && decide (n ≤ r.2.1) && (n - r.1) % r.2.2.1 == 0

theorem smallOf_eq {c : Char} (h : 0x80 ≤ c.toNat) (hne : c.toNat ≠ 0x130) :
    smallOf c = [((capital? c.toNat).map fun r =>
      Char.ofNat ((c.toNat : Int) + r.2.2.2).toNat).getD c] := by
  rw [smallOf, if_neg (by omega), if_neg hne]
  split
  next first last step distance hrow =>
    have hcap : capital? c.toNat = some (first, last, step, distance) := hrow
    rw [hcap]
    rfl
  next hrow =>
    have hcap : capital? c.toNat = none := hrow
    rw [hcap]
    rfl

theorem capital?_eq_some {n : Nat} {r : Nat × Nat × Nat × Int} (h : capital? n = some r) :
    (n, (n + r.2.2.2).toNat) ∈ capitalPairs := by
  have hmem := List.mem_of_find?_eq_some h
  have hin : (r.1 ≤ n ∧ n ≤ r.2.1) ∧ (n - r.1) % r.2.2.1 = 0 := by simpa using List.find?_some h
  have hn : r.1 + (n - r.1) = n := by omega
  refine List.mem_flatMap.2 ⟨r, hmem, List.mem_map.2 ⟨n - r.1, ?_, by rw [hn]⟩⟩
  exact List.mem_filter.2 ⟨List.mem_range.2 (by omega), by simpa using hin.2⟩

theorem capital?_eq_none {n : Nat} (h : capital? n = none) : n ∉ capitalPairs.map (·.1) := by
  rw [capital?, List.find?_eq_none] at h
  simp only [capitalPairs, List.mem_map, List.mem_flatMap, List.mem_filter, List.mem_range]
  rintro ⟨_, ⟨r, hr, i, ⟨hi, hstep⟩, rfl⟩, rfl⟩
  refine h r hr ?_
  simp only [Bool.and_eq_true, decide_eq_true_eq, Nat.add_sub_cancel_left]
  exact ⟨⟨by omega, by omega⟩, hstep⟩

theorem capitalMask_of_capital {n : Nat} {r : Nat × Nat × Nat × Int} (h : capital? n = some r)
    (hn : n < 0x13A0 ∨ 0x13F5 < n) : capitalMask.testBit n = true := by
  rw [capitalMask, testBit_pointMask, decide_eq_true_eq, List.mem_cons, List.mem_filter]
  exact .inr ⟨List.mem_map.2 ⟨_, capital?_eq_some h, rfl⟩, by simpa using hn⟩

theorem capitalMask_eq_false {n : Nat} (hne : n ≠ 0x130)
    (h : capital? n = none ∨ 0x13A0 ≤ n ∧ n ≤ 0x13F5) : capitalMask.testBit n = false := by
  rw [capitalMask, testBit_pointMask, decide_eq_false_iff_not, List.mem_cons, List.mem_filter]
  rintro (rfl | ⟨hmem, hn⟩)
  · exact hne rfl
  · rcases h with h | h
    · exact capital?_eq_none h hmem
    · simp only [Bool.or_eq_true, decide_eq_true_eq] at hn
      omega

/-- A letter that is neither away nor of the script with the old capitals has a small form that
stays. -/
theorem small_stays {n s : Nat} (h : (n, s) ∈ capitalPairs) (haway : awayMask.testBit n = false)
    (hn : n < 0x13A0 ∨ 0x13F5 < n) : Stays s := by
  obtain ⟨-, -, -, hall, -⟩ := tables_checked
  have hp := List.all_eq_true.1 hall _ h
  simp only [haway, Bool.false_or, Bool.or_eq_true, decide_eq_true_eq, Bool.not_eq_true'] at hp
  exact hp.resolve_left (by omega)

/-! ### What a character becomes -/

theorem keepsCapitals_iff {c : Char} :
    keepsCapitals c = true ↔ 0x13A0 ≤ c.toNat ∧ c.toNat ≤ 0x13F5 := by
  simp [keepsCapitals]

theorem smallOf_stays_ascii {c : Char} (h : c.toNat < 0x80) : ∀ d ∈ smallOf c, Stays d.toNat := by
  rw [smallOf, if_pos h]
  simp only [List.mem_singleton, forall_eq]
  split
  next hcap =>
    rw [toNat_ofNat (by simp only [Nat.isValidChar]; omega), stays_ascii (by omega)]
    omega
  next hcap =>
    rw [stays_ascii h]
    omega

/-- A character that is not away stays if it has no small form either. -/
theorem stays_of_lone {n : Nat} (haway : awayMask.testBit n = false)
    (hcap : capitalMask.testBit n = false) : Stays n := by
  rw [Stays, movedMask, Nat.testBit_or, haway, hcap]
  rfl

theorem smallOf_stays {c : Char} (h : 0x80 ≤ c.toNat) (haway : awayMask.testBit c.toNat = false)
    (hscript : c.toNat < 0x13A0 ∨ 0x13F5 < c.toNat) : ∀ d ∈ smallOf c, Stays d.toNat := by
  by_cases hdot : c.toNat = 0x130
  · -- The one letter whose small form is two characters.
    obtain ⟨-, -, -, -, -, -, hmark, -⟩ := tables_checked
    have hi : Stays 'i'.toNat := (stays_ascii (by decide)).2 (by decide)
    have hmark : Stays '\u0307'.toNat := hmark
    rw [smallOf, if_neg (by omega), if_pos hdot]
    exact List.forall_mem_cons.2 ⟨hi, List.forall_mem_cons.2 ⟨hmark, by simp⟩⟩
  · rw [smallOf_eq h hdot]
    simp only [List.mem_singleton, forall_eq]
    cases hcap : capital? c.toNat with
    | some r => exact stays_ofNat (small_stays (capital?_eq_some hcap) haway hscript)
    | none => exact stays_of_lone haway (capitalMask_eq_false hdot (.inl hcap))

theorem away_eq_false {c : Char} (h : 0x80 ≤ c.toNat) (hleft : ¬leftOut.has c = true)
    (hform : otherForm? c.toNat = none) (hrefused : ¬isRefused c = true) :
    awayMask.testBit c.toNat = false := by
  rw [awayMask, Nat.testBit_or, Nat.testBit_or, ← Ranges.has_eq, Bool.eq_false_iff.2 hleft,
    otherForm?_eq_none hform, ← isRefused_eq h, Bool.eq_false_iff.2 hrefused]
  rfl

inductive Mapped (c : Char) : List Char → Prop where
  | ascii : c.toNat < 0x80 → Mapped c (smallOf c)
  | left : Mapped c []
  | moved {codes : List Nat} : otherForm? c.toNat = some codes → Mapped c (codes.map Char.ofNat)
  | kept : awayMask.testBit c.toNat = false → 0x13A0 ≤ c.toNat ∧ c.toNat ≤ 0x13F5 → Mapped c [c]
  | small : 0x80 ≤ c.toNat → awayMask.testBit c.toNat = false →
      c.toNat < 0x13A0 ∨ 0x13F5 < c.toNat → Mapped c (smallOf c)

theorem mapped_of_mapChar {c : Char} {ds : List Char} (h : mapChar c = some ds) : Mapped c ds := by
  rw [mapChar] at h
  split at h
  next hascii =>
    cases h
    exact .ascii hascii
  next hascii =>
    split at h
    next => cases h; exact .left
    next hleft =>
      split at h
      next codes hform => cases h; exact .moved hform
      next hform =>
        split at h
        next => cases h
        next hrefused =>
          have hlow : 0x80 ≤ c.toNat := Nat.not_lt.1 hascii
          have haway := away_eq_false hlow hleft hform hrefused
          split at h
          next hkeeps => cases h; exact .kept haway (keepsCapitals_iff.1 hkeeps)
          next hkeeps =>
            cases h
            rw [keepsCapitals_iff] at hkeeps
            exact .small hlow haway (by omega)

/-- What characters become stays. -/
theorem mapChar_stays {c : Char} {ds : List Char} (h : mapChar c = some ds) :
    ∀ d ∈ ds, Stays d.toNat := by
  cases mapped_of_mapChar h with
  | ascii hascii => exact smallOf_stays_ascii hascii
  | left => exact List.forall_mem_nil _
  | moved hform =>
    intro d hd
    obtain ⟨t, ht, rfl⟩ := List.mem_map.1 hd
    exact stays_ofNat (targets_stay ((otherForm?_eq_some hform).2 t ht))
  | kept haway hscript =>
    exact List.forall_mem_singleton.2
      (stays_of_lone haway (capitalMask_eq_false (by omega) (.inr hscript)))
  | small hlow haway hscript => exact smallOf_stays hlow haway hscript

/-- What stays stands for itself. -/
theorem mapChar_of_stays {c : Char} (h : Stays c.toNat) : mapChar c = some [c] := by
  obtain ⟨hleft, hform, hrefused, hcap⟩ := stays_iff.1 h
  rw [mapChar]
  split
  next hascii =>
    rw [stays_ascii hascii] at h
    rw [smallOf, if_pos hascii, if_neg (by omega)]
  next hascii =>
    have hother : otherForm? c.toNat = none := by
      cases ho : otherForm? c.toNat with
      | none => rfl
      | some codes => exact absurd (otherForm?_eq_some ho).1 (by simp [hform])
    rw [Ranges.has_eq, hleft, if_neg (by simp), hother, isRefused_eq (by omega), hrefused]
    simp only [Bool.false_eq_true, if_false]
    split
    · rfl
    next hkeeps =>
      rw [keepsCapitals_iff] at hkeeps
      have hdot : c.toNat ≠ 0x130 := fun hdot => by
        have hin : capitalMask.testBit 0x130 = true := by
          rw [capitalMask, testBit_pointMask]
          simp
        rw [hdot, hin] at hcap
        cases hcap
      have hnone : capital? c.toNat = none := by
        cases hc : capital? c.toNat with
        | none => rfl
        | some r => exact absurd (capitalMask_of_capital hc (by omega)) (by simp [hcap])
      rw [smallOf_eq (by omega) hdot, hnone]
      rfl

/-! ### Names -/

theorem rule_stays {a b w : Nat} (h : (a, b, w) ∈ rules) : Stays w ↔ Stays a ∧ Stays b := by
  obtain ⟨-, -, -, -, hall, -⟩ := tables_checked
  have hr := List.all_eq_true.1 hall _ h
  rw [beq_iff_eq] at hr
  simp [Stays, hr]

theorem syllable_stays {n : Nat} (h : 0xAC00 ≤ n ∧ n ≤ 0xD7A3) : Stays n := by
  obtain ⟨-, -, -, -, -, ⟨hmask, -, -⟩, -⟩ := tables_checked
  exact testBit_false_of_run 0xAC00 0xD7A3 hmask h.1 h.2

theorem jamo_stays {n : Nat} (h : Syllable.IsJamo n) : Stays n := by
  obtain ⟨-, -, -, -, -, ⟨-, hlead, hrest⟩, -⟩ := tables_checked
  obtain ⟨hfirst, hlast, hn | hn⟩ := h
  · exact testBit_false_of_run 0x1100 0x115E hlead hfirst (by omega)
  · exact testBit_false_of_run 0x1161 0x11FF hrest hn hlast

theorem ideograph_stays {n : Nat} (h : 0x20000 ≤ n ∧ n ≤ 0x2A6D6) : Stays n := by
  obtain ⟨-, -, -, -, -, -, -, hmask⟩ := tables_checked
  exact testBit_false_of_run 0x20000 0x2A6D6 hmask h.1 h.2

theorem joined?_stays {a b w : Char} (ha : Stays a.toNat) (hb : Stays b.toNat)
    (h : joined? a b = some w) : Stays w.toNat := by
  obtain ⟨n, rfl, hj | hr⟩ := joined?_cases h
  · obtain ⟨s, hp, rfl, -⟩ := Syllable.join?_cases hj
    refine stays_ofNat (syllable_stays ?_)
    have := (Syllable.ofCode?_eq_none (n := s.code)).not.1 (by simp [Syllable.ofCode?_code hp])
    omega
  · exact stays_ofNat ((rule_stays hr).2 ⟨ha, hb⟩)

/-- Composing keeps to the characters that stay. -/
theorem compose_stays {cs : List Char} (h : ∀ c ∈ cs, Stays c.toNat) :
    ∀ c ∈ compose cs, Stays c.toNat :=
  compose_all
    (fun _ hc => decompose_all (fun _ _ _ hr => (rule_stays hr).1) (fun _ => jamo_stays) hc)
    (fun _ _ _ ha hb hw => joined?_stays ha hb hw) h

theorem mapM_mapChar_of_stays {cs : List Char} (h : ∀ c ∈ cs, Stays c.toNat) :
    cs.mapM mapChar = some (cs.map ([·])) := by
  induction cs with
  | nil => rfl
  | cons c cs ih =>
    obtain ⟨hc, hcs⟩ := List.forall_mem_cons.1 h
    rw [List.mapM_cons, mapChar_of_stays hc, ih hcs]
    rfl

theorem mapM_mapChar_stays {cs : List Char} {dss : List (List Char)}
    (h : cs.mapM mapChar = some dss) : ∀ d ∈ dss.flatten, Stays d.toNat := by
  induction cs generalizing dss with
  | nil => cases h; simp
  | cons c cs ih =>
    rw [List.mapM_cons] at h
    obtain ⟨ds, hds, h⟩ := Option.bind_eq_some_iff.1 h
    obtain ⟨rest, hrest, h⟩ := Option.bind_eq_some_iff.1 h
    cases h
    intro d hd
    rcases List.mem_append.1 (List.flatten_cons ▸ hd) with hd | hd
    · exact mapChar_stays hds d hd
    · exact ih hrest d hd

structure Normal (cs : List Char) : Prop where
  stays : ∀ c ∈ cs, Stays c.toNat
  composed : compose cs = cs
  allowed : ∀ c ∈ cs, isForbidden c = false

theorem normalize_of_normal {cs : List Char} (h : Normal cs) : normalize cs = some cs := by
  have hflat : (cs.map ([·])).flatten = cs := by simp [← List.flatMap_def]
  have hall : cs.any isForbidden = false := by simpa using h.allowed
  simp only [normalize, mapM_mapChar_of_stays h.stays, Option.bind_eq_bind, Option.bind_some, hflat,
    h.composed, hall, Bool.false_eq_true, if_false]

theorem normal_of_normalize {cs name : List Char} (h : normalize cs = some name) : Normal name := by
  obtain ⟨dss, hdss, h⟩ := Option.bind_eq_some_iff.1 h
  obtain ⟨hall, rfl⟩ : (∀ c ∈ compose dss.flatten, isForbidden c = false) ∧
      compose dss.flatten = name := by simpa using h
  exact ⟨compose_stays (mapM_mapChar_stays hdss), compose_compose _, hall⟩

end Intercept.Url.Domain
