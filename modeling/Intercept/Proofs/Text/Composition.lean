import Intercept.Proofs.Text.CodePoints
import Intercept.Text.Composition
import Mathlib.Data.List.Chain
import Mathlib.Data.List.Nodup
import Mathlib.Tactic.Common

/-!
Composing a text twice is composing it once. Marks of two classes may change places, and the
arranged text is the same for all texts that differ in no more than that. A letter that took marks
to it gives them back where it stands, before the marks that it left, so taking a composed text
apart gives the arranged parts of the first time, up to such changes.
-/

namespace Intercept.Text

/-! ### The tables -/

/-- All that two parts make: the first part, the second one, the whole. -/
def rules : List (Nat × Nat × Nat) := pairs.flatMap fun e => e.2.map fun f => (f.1, e.1, f.2)

def wholes : List Nat := rules.map (·.2.2)

theorem mem_rules {a b w : Nat} :
    (a, b, w) ∈ rules ↔ ∃ row, (b, row) ∈ pairs ∧ (a, w) ∈ row := by
  simp only [rules, List.mem_flatMap, List.mem_map, Prod.mk.injEq]
  constructor
  · rintro ⟨⟨_, row⟩, he, ⟨_, _⟩, hf, rfl, rfl, rfl⟩
    exact ⟨row, he, hf⟩
  · rintro ⟨row, he, hf⟩
    exact ⟨(b, row), he, (a, w), hf, rfl, rfl, rfl⟩

theorem mem_wholes {w : Nat} : w ∈ wholes ↔ ∃ a b, (a, b, w) ∈ rules := by
  simp only [wholes, List.mem_map, Prod.exists]
  exact ⟨fun ⟨a, b, _, h, he⟩ => ⟨a, b, he ▸ h⟩, fun ⟨a, b, h⟩ => ⟨a, b, w, h, rfl⟩⟩

def ruled : List Nat := rules.flatMap fun r => [r.1, r.2.1, r.2.2]

theorem ruled_of_rule {a b w : Nat} (h : (a, b, w) ∈ rules) :
    a ∈ ruled ∧ b ∈ ruled ∧ w ∈ ruled := by
  simp only [ruled, List.mem_flatMap]
  exact ⟨⟨_, h, by simp⟩, ⟨_, h, by simp⟩, ⟨_, h, by simp⟩⟩

/-- The letters that come apart completely in this many steps. -/
def within : Nat → Nat
  | 0 => 0
  | depth + 1 =>
    pointMask ((rules.filter fun r =>
      !(pointMask wholes).testBit r.1 || (within depth).testBit r.1).map (·.2.2))

/-- All that is checked of the tables, in one evaluation: no whole has two rules, no second part is
a whole, syllables and jamo have rules of their own, and three steps take every letter apart. -/
theorem rules_checked :
    areNew wholes 0 = true ∧
      (rules.all fun r => !(pointMask wholes).testBit r.2.1) = true ∧
      (ruled.all fun n => n < 0x20000) = true ∧
      pointMask ruled &&& runMask 0xAC00 0xDFFF = 0 ∧
      pointMask wholes &&& runMask 0 0xBF = 0 ∧
      pointMask wholes &&& runMask 0x1100 0x11FF = 0 ∧
      within 3 = pointMask wholes := by
  decide +kernel

theorem wholes_nodup : wholes.Nodup := (areNew_spec rules_checked.1).1

theorem rules_unique {a b a' b' w : Nat} (h : (a, b, w) ∈ rules) (h' : (a', b', w) ∈ rules) :
    a = a' ∧ b = b' := by
  have he := List.inj_on_of_nodup_map wholes_nodup h h' rfl
  simp only [Prod.mk.injEq] at he
  exact ⟨he.1, he.2.1⟩

theorem notMem_run {points : List Nat} (first last : Nat) {n : Nat}
    (h : pointMask points &&& runMask first last = 0) (hn : n ∈ points) : n < first ∨ last < n := by
  have := testBit_false_of_and_eq_zero h (testBit_of_mem hn)
  rw [testBit_runMask] at this
  simp only [Bool.and_eq_false_iff, decide_eq_false_iff_not] at this
  omega

/-- Syllables follow a rule of their own; behind them are the numbers that are no characters. -/
theorem not_syllable_of_ruled {n : Nat} (h : n ∈ ruled) : n < 0xAC00 ∨ 0xDFFF < n := by
  obtain ⟨-, -, -, hmask, -⟩ := rules_checked
  exact notMem_run 0xAC00 0xDFFF hmask h

theorem lt_of_ruled {n : Nat} (h : n ∈ ruled) : n < 0x20000 := by
  obtain ⟨-, -, hall, -⟩ := rules_checked
  simpa using List.all_eq_true.1 hall n h

theorem toNat_ofNat_of_ruled {n : Nat} (h : n ∈ ruled) : (Char.ofNat n).toNat = n := by
  have := not_syllable_of_ruled h
  have := lt_of_ruled h
  exact toNat_ofNat (by simp only [Nat.isValidChar]; omega)

theorem second_notMem_wholes {a b w : Nat} (h : (a, b, w) ∈ rules) : b ∉ wholes := by
  obtain ⟨-, hall, -⟩ := rules_checked
  have := List.all_eq_true.1 hall _ h
  simpa [testBit_pointMask] using this

theorem le_of_whole {w : Nat} (h : w ∈ wholes) : 0xC0 ≤ w := by
  obtain ⟨-, -, -, -, hmask, -⟩ := rules_checked
  have := notMem_run 0 0xBF hmask h
  omega

theorem not_jamo_of_whole {w : Nat} (h : w ∈ wholes) : w < 0x1100 ∨ 0x11FF < w := by
  obtain ⟨-, -, -, -, -, hmask, -⟩ := rules_checked
  exact notMem_run 0x1100 0x11FF hmask h

theorem within_three : within 3 = pointMask wholes := by
  obtain ⟨-, -, -, -, -, -, hall⟩ := rules_checked
  exact hall

theorem partsOf?_eq_some {a b w : Nat} : partsOf? w = some (a, b) ↔ (a, b, w) ∈ rules := by
  have sound {a b : Nat} (h : partsOf? w = some (a, b)) : (a, b, w) ∈ rules := by
    rw [partsOf?] at h
    split at h
    · cases h
    · obtain ⟨⟨second, row⟩, hrow, hf⟩ := List.exists_of_findSome?_eq_some h
      obtain ⟨⟨first, whole⟩, hfind, he⟩ := Option.map_eq_some_iff.1 hf
      have hw : whole = w := by simpa using List.find?_some hfind
      cases he
      exact mem_rules.2 ⟨row, hrow, hw ▸ List.mem_of_find?_eq_some hfind⟩
  refine ⟨sound, fun h => ?_⟩
  cases hp : partsOf? w with
  | some p =>
    obtain ⟨rfl, rfl⟩ := rules_unique h (sound (a := p.1) (b := p.2) hp)
    rfl
  | none =>
    exfalso
    have hw := le_of_whole (mem_wholes.2 ⟨a, b, h⟩)
    obtain ⟨row, hrow, hmem⟩ := mem_rules.1 h
    rw [partsOf?, if_neg (by omega), List.findSome?_eq_none_iff] at hp
    have hnone := hp _ hrow
    simp only [Option.map_eq_none_iff, List.find?_eq_none] at hnone
    exact hnone _ hmem (by simp)

theorem partsOf?_eq_none {n : Nat} : partsOf? n = none ↔ n ∉ wholes := by
  rw [Option.eq_none_iff_forall_ne_some, mem_wholes, not_exists]
  simp only [Prod.forall, ne_eq, partsOf?_eq_some, not_exists]

/-! ### Taking apart -/

theorem takeApart_whole {a b w : Nat} (h : (a, b, w) ∈ rules) (depth : Nat) :
    takeApart (depth + 1) w = takeApart depth a ++ [b] := by
  rw [takeApart, partsOf?_eq_some.2 h]

theorem takeApart_of_notMem {n : Nat} (h : n ∉ wholes) (depth : Nat) : takeApart depth n = [n] := by
  cases depth with
  | zero => rfl
  | succ depth => rw [takeApart, partsOf?_eq_none.2 h]

theorem takeApart_within (depth : Nat) {n : Nat}
    (h : n ∉ wholes ∨ (within depth).testBit n = true) :
    takeApart (depth + 1) n = takeApart depth n ∧ ∀ m ∈ takeApart depth n, m ∉ wholes := by
  induction depth generalizing n with
  | zero =>
    have hn : n ∉ wholes := by simpa [within] using h
    simp [takeApart_of_notMem hn, hn]
  | succ depth ih =>
    by_cases hn : n ∈ wholes
    · have hin := mem_of_testBit (h.resolve_left (fun h => h hn))
      simp only [List.mem_map, List.mem_filter, Bool.or_eq_true, Bool.not_eq_true',
        testBit_pointMask, decide_eq_false_iff_not] at hin
      obtain ⟨⟨a, b, _⟩, ⟨hr, ha⟩, rfl⟩ := hin
      obtain ⟨hsame, hbasic⟩ := ih ha
      rw [takeApart_whole hr, takeApart_whole hr, hsame]
      refine ⟨rfl, fun m hm => ?_⟩
      rcases List.mem_append.1 hm with hm | hm
      · exact hbasic m hm
      · rw [List.mem_singleton.1 hm]
        exact second_notMem_wholes hr
    · simp [takeApart_of_notMem hn, hn]

theorem takeApart_three (n : Nat) :
    takeApart 4 n = takeApart 3 n ∧ ∀ m ∈ takeApart 3 n, m ∉ wholes := by
  refine takeApart_within 3 ?_
  rw [within_three, testBit_pointMask, decide_eq_true_eq]
  exact (em _).symm

/-- What holds of a letter holds of its parts, if it does so by every rule. -/
theorem takeApart_all {P : Nat → Prop} (hP : ∀ a b w, (a, b, w) ∈ rules → P w → P a ∧ P b)
    (depth : Nat) {n : Nat} (hn : P n) : ∀ m ∈ takeApart depth n, P m := by
  induction depth generalizing n with
  | zero => simpa [takeApart] using hn
  | succ depth ih =>
    by_cases hw : n ∈ wholes
    · obtain ⟨a, b, hr⟩ := mem_wholes.1 hw
      obtain ⟨ha, hb⟩ := hP a b n hr hn
      rw [takeApart_whole hr]
      intro m hm
      rcases List.mem_append.1 hm with hm | hm
      · exact ih ha m hm
      · exact List.mem_singleton.1 hm ▸ hb
    · simpa [takeApart_of_notMem hw] using hn

namespace Syllable

theorem ofCode?_eq_none {n : Nat} : ofCode? n = none ↔ n < 0xAC00 ∨ 0xD7A3 < n := by
  have h : ofCode? n = none ↔ ¬(base ≤ n ∧ n - base < leads * vowels * tails) := by
    simp [ofCode?]
  rw [h]
  simp only [base, leads, vowels, tails]
  omega

structure Proper (s : Syllable) : Prop where
  lead : s.lead < leads
  vowel : s.vowel < vowels
  tail : s.tail < tails

theorem proper_of_code {n : Nat} {s : Syllable} (h : ofCode? n = some s) : s.Proper := by
  rw [ofCode?] at h
  split at h
  next hn =>
    cases h
    simp only [leads, vowels, tails] at hn ⊢
    exact ⟨by simp only [leads]; omega, by simp only [vowels]; omega, by simp only [tails]; omega⟩
  next => cases h

theorem ofCode?_code {s : Syllable} (h : s.Proper) : ofCode? s.code = some s := by
  obtain ⟨hl, hv, ht⟩ := h
  obtain ⟨l, v, t⟩ := s
  simp only [leads, vowels, tails] at hl hv ht
  have hplace : base ≤ code ⟨l, v, t⟩ ∧ code ⟨l, v, t⟩ - base < leads * vowels * tails := by
    simp only [code, base, leads, vowels, tails]
    omega
  rw [ofCode?, if_pos hplace]
  simp only [code, base, vowels, tails, Option.some.injEq, mk.injEq]
  omega

theorem code_valid {s : Syllable} (h : s.Proper) : s.code.isValidChar := by
  obtain ⟨hl, hv, ht⟩ := h
  simp only [leads, vowels, tails] at hl hv ht
  simp only [Nat.isValidChar, code, base, vowels, tails]
  omega

/-- The places of the parts, with the fillers between leads and vowels left out. -/
def IsJamo (n : Nat) : Prop := 0x1100 ≤ n ∧ n ≤ 0x11FF ∧ (n < 0x115F ∨ 0x1160 < n)

theorem isJamo_of_mem {s : Syllable} (h : s.Proper) : ∀ m ∈ s.parts, IsJamo m := by
  obtain ⟨hl, hv, ht⟩ := h
  simp only [leads, vowels, tails] at hl hv ht
  intro m hm
  simp only [parts, leadBase, vowelBase, tailBase, List.mem_append, List.mem_cons] at hm
  unfold IsJamo
  split at hm <;> simp at hm <;> omega

end Syllable

theorem decompose_syllable {c : Char} {s : Syllable} (h : Syllable.ofCode? c.toNat = some s) :
    decompose c = s.parts.map Char.ofNat := by
  rw [decompose, h]

theorem decompose_letter {c : Char} (h : Syllable.ofCode? c.toNat = none) :
    decompose c = (takeApart 3 c.toNat).map Char.ofNat := by
  rw [decompose, h]

theorem decompose_of_notMem {c : Char} (h : Syllable.ofCode? c.toNat = none)
    (hw : c.toNat ∉ wholes) : decompose c = [c] := by
  rw [decompose_letter h, takeApart_of_notMem hw, List.map_singleton, Char.ofNat_toNat]

theorem toNat_ofNat_of_isJamo {n : Nat} (h : Syllable.IsJamo n) : (Char.ofNat n).toNat = n :=
  toNat_ofNat (by unfold Syllable.IsJamo at h; simp only [Nat.isValidChar]; omega)

theorem decompose_jamo {n : Nat} (h : Syllable.IsJamo n) :
    decompose (Char.ofNat n) = [Char.ofNat n] := by
  have hn := toNat_ofNat_of_isJamo h
  unfold Syllable.IsJamo at h
  refine decompose_of_notMem (by rw [hn, Syllable.ofCode?_eq_none]; omega) fun hw => ?_
  have := not_jamo_of_whole hw
  omega

/-- What holds of a character holds of what it is taken apart into. -/
theorem decompose_all {P : Nat → Prop} (hP : ∀ a b w, (a, b, w) ∈ rules → P w → P a ∧ P b)
    (hjamo : ∀ n, Syllable.IsJamo n → P n) {c : Char} (hc : P c.toNat) :
    ∀ d ∈ decompose c, P d.toNat := by
  intro d hd
  cases hs : Syllable.ofCode? c.toNat with
  | some s =>
    rw [decompose_syllable hs] at hd
    obtain ⟨m, hm, rfl⟩ := List.mem_map.1 hd
    have hj := Syllable.isJamo_of_mem (Syllable.proper_of_code hs) m hm
    rw [toNat_ofNat_of_isJamo hj]
    exact hjamo m hj
  | none =>
    rw [decompose_letter hs] at hd
    obtain ⟨m, hm, rfl⟩ := List.mem_map.1 hd
    have hm' : P m ∧ (m = c.toNat ∨ m ∈ ruled) :=
      takeApart_all (P := fun n => P n ∧ (n = c.toNat ∨ n ∈ ruled))
        (fun a b w hr hw => ⟨⟨(hP a b w hr hw.1).1, .inr (ruled_of_rule hr).1⟩,
          (hP a b w hr hw.1).2, .inr (ruled_of_rule hr).2.1⟩) 3 ⟨hc, .inl rfl⟩ m hm
    rcases hm'.2 with rfl | hr
    · rw [Char.ofNat_toNat]
      exact hc
    · rw [toNat_ofNat_of_ruled hr]
      exact hm'.1

/-- A character that stands for itself alone. -/
theorem decompose_of_mem {c d : Char} (hd : d ∈ decompose c) : decompose d = [d] := by
  cases hs : Syllable.ofCode? c.toNat with
  | some s =>
    rw [decompose_syllable hs] at hd
    obtain ⟨m, hm, rfl⟩ := List.mem_map.1 hd
    exact decompose_jamo (Syllable.isJamo_of_mem (Syllable.proper_of_code hs) m hm)
  | none =>
    have hall := decompose_all (c := c) (P := fun n => n < 0xAC00 ∨ 0xD7A3 < n)
      (fun a b w hr _ => by
        have ha := not_syllable_of_ruled (ruled_of_rule hr).1
        have hb := not_syllable_of_ruled (ruled_of_rule hr).2.1
        omega)
      (fun n hn => .inl (by unfold Syllable.IsJamo at hn; omega))
      (Syllable.ofCode?_eq_none.1 hs) d hd
    refine decompose_of_notMem (Syllable.ofCode?_eq_none.2 hall) ?_
    rw [decompose_letter hs] at hd
    obtain ⟨m, hm, rfl⟩ := List.mem_map.1 hd
    have hbasic := (takeApart_three c.toNat).2 m hm
    by_cases hv : m.isValidChar
    · rwa [toNat_ofNat hv]
    · rw [Char.ofNat, dif_neg hv]
      exact fun h => absurd (le_of_whole h) (by decide)

/-! ### Joining -/

theorem mem_of_lookup {β : Type} {l : List (Nat × β)} {k : Nat} {b : β}
    (h : l.lookup k = some b) : (k, b) ∈ l := by
  obtain ⟨_, _, rfl, -⟩ := List.lookup_eq_some_iff.1 h
  simp

theorem joined?_cases {a b w : Char} (h : joined? a b = some w) :
    ∃ n, w = Char.ofNat n ∧
      (Syllable.join? a.toNat b.toNat = some n ∨ (a.toNat, b.toNat, n) ∈ rules) := by
  rw [joined?] at h
  split at h
  · cases h
  · obtain ⟨n, hn, rfl⟩ := Option.map_eq_some_iff.1 h
    refine ⟨n, rfl, (Option.or_eq_some_iff.1 hn).imp id fun ⟨_, hp⟩ => ?_⟩
    obtain ⟨row, hrow, hw⟩ := Option.bind_eq_some_iff.1 hp
    exact mem_rules.2 ⟨row, mem_of_lookup hrow, mem_of_lookup hw⟩

namespace Syllable

/-- What is joined is a syllable whose last part is the second one. -/
theorem join?_cases {a b n : Nat} (h : join? a b = some n) :
    ∃ s : Syllable, s.Proper ∧ n = s.code ∧
      ((s.parts = [a, b] ∧ IsJamo a) ∨
        ∃ s', ofCode? a = some s' ∧ s.parts = s'.parts ++ [b]) := by
  rw [join?] at h
  split at h
  next hj =>
    simp only [leadBase, leads, vowelBase, vowels] at hj
    refine ⟨⟨a - leadBase, b - vowelBase, 0⟩, ⟨?_, ?_, (by decide : 0 < tails)⟩,
      (Option.some.inj h).symm, .inl ⟨?_, ?_⟩⟩
    · simp only [leadBase, leads]
      omega
    · simp only [vowelBase, vowels]
      omega
    · simp only [parts, leadBase, vowelBase, if_true, List.append_nil, List.cons.injEq, and_true]
      omega
    · unfold IsJamo
      omega
  next =>
    split at h
    next s hs =>
      split at h
      next ht =>
        simp only [tailBase, tails] at ht
        have hp := proper_of_code hs
        refine ⟨{ s with tail := b - tailBase }, ⟨hp.lead, hp.vowel, ?_⟩,
          (Option.some.inj h).symm, .inr ⟨s, hs, ?_⟩⟩
        · simp only [tailBase, tails]
          omega
        · have hb : tailBase + (b - tailBase) = b := by simp only [tailBase]; omega
          rw [parts, parts, if_pos ht.1, if_neg (by simp only [tailBase]; omega), hb]
          simp
      next => cases h
    next => cases h

end Syllable

/-- What is joined comes apart into the parts of the first and the second one. -/
theorem decompose_joined {a b w : Char} (h : joined? a b = some w) :
    decompose w = decompose a ++ [b] := by
  obtain ⟨n, rfl, hj | hr⟩ := joined?_cases h
  · obtain ⟨s, hp, rfl, hparts⟩ := Syllable.join?_cases hj
    rw [decompose_syllable (s := s) (by
      rw [toNat_ofNat (Syllable.code_valid hp), Syllable.ofCode?_code hp])]
    rcases hparts with ⟨hparts, ha⟩ | ⟨s', ha, hparts⟩
    · rw [hparts, ← Char.ofNat_toNat a, decompose_jamo ha]
      simp
    · rw [hparts, decompose_syllable ha]
      simp
  · obtain ⟨ha, -, hn⟩ := ruled_of_rule hr
    have hna := not_syllable_of_ruled ha
    have hnn := not_syllable_of_ruled hn
    rw [decompose_letter (by rw [toNat_ofNat_of_ruled hn, Syllable.ofCode?_eq_none]; omega),
      decompose_letter (Syllable.ofCode?_eq_none.2 (by omega)), toNat_ofNat_of_ruled hn,
      ← (takeApart_three n).1, takeApart_whole hr]
    simp

/-! ### The order of marks -/

def classed (c : Char) : Nat × Char := (combiningClass c, c)

def arrange (l : List (Nat × Char)) : List (Nat × Char) :=
  (l.foldl (fun before c => putBehind c before) []).reverse

theorem ordered_eq (cs : List Char) : ordered cs = arrange (cs.map classed) := by
  rw [ordered, arrange, List.foldl_map]
  rfl

/-- Texts that differ in the order of marks of different classes only. -/
inductive Alike : List (Nat × Char) → List (Nat × Char) → Prop where
  | refl (l : List (Nat × Char)) : Alike l l
  | swap {a b : Nat × Char} (front back : List (Nat × Char)) (ha : a.1 ≠ 0) (hb : b.1 ≠ 0)
      (hne : a.1 ≠ b.1) : Alike (front ++ a :: b :: back) (front ++ b :: a :: back)
  | trans {l m n : List (Nat × Char)} : Alike l m → Alike m n → Alike l n

namespace Alike

theorem symm {l m : List (Nat × Char)} (h : Alike l m) : Alike m l := by
  induction h with
  | refl l => exact .refl l
  | swap front back ha hb hne => exact .swap front back hb ha hne.symm
  | trans _ _ ih ih' => exact ih'.trans ih

theorem append_left (front : List (Nat × Char)) {l m : List (Nat × Char)} (h : Alike l m) :
    Alike (front ++ l) (front ++ m) := by
  induction h with
  | refl l => exact .refl _
  | swap f back ha hb hne =>
    rw [← List.append_assoc, ← List.append_assoc]
    exact .swap (front ++ f) back ha hb hne
  | trans _ _ ih ih' => exact ih.trans ih'

theorem append_right (back : List (Nat × Char)) {l m : List (Nat × Char)} (h : Alike l m) :
    Alike (l ++ back) (m ++ back) := by
  induction h with
  | refl l => exact .refl _
  | swap front b ha hb hne =>
    rw [List.append_assoc, List.append_assoc]
    exact .swap front (b ++ back) ha hb hne
  | trans _ _ ih ih' => exact ih.trans ih'

/-- A mark may go in front of marks of other classes. -/
theorem move {c : Nat × Char} (hc : c.1 ≠ 0) :
    ∀ marks : List (Nat × Char), (∀ m ∈ marks, m.1 ≠ 0 ∧ m.1 ≠ c.1) →
      Alike (marks ++ [c]) (c :: marks)
  | [], _ => .refl _
  | m :: marks, h =>
    ((move hc marks fun x hx => h x (List.mem_cons_of_mem _ hx)).append_left [m]).trans
      (.swap [] marks (h m List.mem_cons_self).1 hc (h m List.mem_cons_self).2)

end Alike

theorem putBehind_comm {a b : Nat × Char} (ha : a.1 ≠ 0) (hb : b.1 ≠ 0) (hne : a.1 ≠ b.1)
    (before : List (Nat × Char)) :
    putBehind a (putBehind b before) = putBehind b (putBehind a before) := by
  induction before with
  | nil =>
    rcases Nat.lt_or_gt_of_ne hne with h | h
    · simp [putBehind, ha, h, Nat.not_lt_of_gt h]
    · simp [putBehind, hb, h, Nat.not_lt_of_gt h]
  | cons d before ih =>
    by_cases had : a.1 < d.1 <;> by_cases hbd : b.1 < d.1
    · simp [putBehind, ha, hb, had, hbd, ih]
    · have hab : a.1 < b.1 := by omega
      simp [putBehind, ha, had, hbd, hab]
    · have hba : b.1 < a.1 := by omega
      simp [putBehind, hb, had, hbd, hba]
    · rcases Nat.lt_or_gt_of_ne hne with h | h
      · simp [putBehind, ha, had, hbd, h, Nat.not_lt_of_gt h]
      · simp [putBehind, hb, had, hbd, h, Nat.not_lt_of_gt h]

theorem arrange_eq_of_alike {l m : List (Nat × Char)} (h : Alike l m) : arrange l = arrange m := by
  induction h with
  | refl l => rfl
  | swap front back ha hb hne =>
    simp only [arrange, List.foldl_append, List.foldl_cons]
    rw [putBehind_comm hb ha hne.symm]
  | trans _ _ ih ih' => exact ih.trans ih'

theorem putBehind_alike (c : Nat × Char) (before : List (Nat × Char)) :
    Alike (before.reverse ++ [c]) (putBehind c before).reverse := by
  induction before with
  | nil => exact .refl _
  | cons d before ih =>
    rw [putBehind]
    split
    next h =>
      have hd : d.1 ≠ 0 := by omega
      have hswap : Alike (before.reverse ++ d :: c :: []) (before.reverse ++ c :: d :: []) :=
        .swap before.reverse [] hd h.1 (by omega)
      have hrest := ih.append_right [d]
      simp only [List.reverse_cons, List.append_assoc, List.cons_append, List.nil_append]
        at hrest ⊢
      exact hswap.trans hrest
    next => simpa using Alike.refl _

theorem foldl_putBehind_alike (l before : List (Nat × Char)) :
    Alike (before.reverse ++ l) (l.foldl (fun before c => putBehind c before) before).reverse := by
  induction l generalizing before with
  | nil => simpa using Alike.refl _
  | cons c l ih =>
    have h := ((putBehind_alike c before).append_right l).trans (ih (putBehind c before))
    simpa using h

theorem arrange_alike (l : List (Nat × Char)) : Alike l (arrange l) :=
  foldl_putBehind_alike l []

theorem arrange_arrange (l : List (Nat × Char)) : arrange (arrange l) = arrange l :=
  (arrange_eq_of_alike (arrange_alike l)).symm

def Rises (k l : Nat) : Prop := l = 0 ∨ k ≤ l

theorem head?_putBehind (c : Nat × Char) (before : List (Nat × Char)) :
    ∀ h ∈ (putBehind c before).head?, h = c ∨ h ∈ before.head? := by
  cases before with
  | nil => simp [putBehind]
  | cons d before =>
    rw [putBehind]
    split <;> simp +contextual [eq_comm]

theorem putBehind_rises (c : Nat × Char) {before : List (Nat × Char)}
    (h : before.IsChain fun d e => Rises e.1 d.1) :
    (putBehind c before).IsChain fun d e => Rises e.1 d.1 := by
  induction before with
  | nil => simp [putBehind]
  | cons d before ih =>
    rw [putBehind]
    split
    next hlt =>
      rw [List.isChain_cons] at h ⊢
      refine ⟨fun e he => ?_, ih h.2⟩
      rcases head?_putBehind c before e he with rfl | he
      · exact .inr (Nat.le_of_lt hlt.2)
      · exact h.1 e he
    next hlt =>
      rw [List.isChain_cons_cons]
      exact ⟨by unfold Rises; omega, h⟩

theorem arrange_rises (l : List (Nat × Char)) :
    (arrange l).IsChain fun d e => Rises d.1 e.1 := by
  rw [arrange, List.isChain_reverse]
  generalize hb : ([] : List (Nat × Char)) = before
  have h : before.IsChain fun d e => Rises e.1 d.1 := by simp [← hb]
  clear hb
  induction l generalizing before with
  | nil => exact h
  | cons c l ih => exact ih _ (putBehind_rises c h)

/-! ### Composing -/

def apart (cs : List Char) : List (Nat × Char) := (cs.flatMap decompose).map classed

theorem apart_cons (c : Char) (cs : List Char) : apart (c :: cs) = apart [c] ++ apart cs := by
  simp [apart]

@[simp] theorem apart_append (cs ds : List Char) : apart (cs ++ ds) = apart cs ++ apart ds := by
  simp [apart]

@[simp] theorem apart_nil : apart [] = [] := rfl

def IsPart (x : Nat × Char) : Prop := x = classed x.2 ∧ decompose x.2 = [x.2]

theorem apart_snd {x : Nat × Char} (h : IsPart x) : apart [x.2] = [x] := by
  simp [apart, h.2, ← h.1]

theorem apart_map_snd {l : List (Nat × Char)} (h : ∀ x ∈ l, IsPart x) :
    apart (l.map (·.2)) = l := by
  induction l with
  | nil => rfl
  | cons x l ih =>
    rw [List.map_cons, apart_cons, apart_snd (h x List.mem_cons_self),
      ih fun y hy => h y (List.mem_cons_of_mem _ hy), List.singleton_append]

theorem isPart_of_mem_apart {cs : List Char} {x : Nat × Char} (h : x ∈ apart cs) : IsPart x := by
  obtain ⟨d, hd, rfl⟩ := List.mem_map.1 h
  obtain ⟨c, -, hd⟩ := List.mem_flatMap.1 hd
  exact ⟨rfl, decompose_of_mem hd⟩

/-- What joins no letter: the marks in front of the first one, then each letter with what follows.
-/
def gather : List (Nat × Char) → List Char
  | [] => []
  | (k, c) :: rest => if k = 0 then joinFrom c [] rest else c :: gather rest

theorem compose_eq (cs : List Char) : compose cs = gather (arrange (apart cs)) := by
  rw [compose, ordered_eq]
  generalize hall : arrange ((cs.flatMap decompose).map classed) = all
  rw [apart, hall]
  clear hall
  induction all with
  | nil => rfl
  | cons x l ih =>
    obtain ⟨k, c⟩ := x
    by_cases hk : k = 0
    · simp [gather, hk]
    · rw [gather, if_neg hk, ← ih]
      simp only [ne_eq, hk, not_false_eq_true, decide_true, List.dropWhile_cons_of_pos,
        List.takeWhile_cons_of_pos, List.map_cons]
      split <;> rfl

/-- The marks that a letter did not take: the last one first, with their classes falling. -/
structure Held (last : Nat) (held : List (Nat × Char)) : Prop where
  part : ∀ x ∈ held, IsPart x
  mark : ∀ x ∈ held, x.1 ≠ 0
  le : ∀ x ∈ held, x.1 ≤ last
  falls : held.Pairwise fun x y => y.1 ≤ x.1

theorem Held.nil (last : Nat) : Held last [] :=
  ⟨by simp, by simp, by simp, .nil⟩

theorem Held.mono {last k : Nat} {held : List (Nat × Char)} (h : Held last held) (hk : last ≤ k) :
    Held k held :=
  ⟨h.part, h.mark, fun x hx => (h.le x hx).trans hk, h.falls⟩

theorem Held.cons {last : Nat} {held : List (Nat × Char)} {x : Nat × Char} (h : Held last held)
    (hx : IsPart x) (hmark : x.1 ≠ 0) (hle : last ≤ x.1) : Held x.1 (x :: held) := by
  refine ⟨List.forall_mem_cons.2 ⟨hx, h.part⟩, List.forall_mem_cons.2 ⟨hmark, h.mark⟩,
    List.forall_mem_cons.2 ⟨le_rfl, fun y hy => (h.le y hy).trans hle⟩,
    List.pairwise_cons.2 ⟨fun y hy => (h.le y hy).trans hle, h.falls⟩⟩

theorem Held.apart_reverse {last : Nat} {held : List (Nat × Char)} (h : Held last held) :
    apart (held.map (·.2)).reverse = held.reverse := by
  rw [← List.map_reverse]
  exact apart_map_snd fun x hx => h.part x (List.mem_reverse.1 hx)

/-- A mark that a letter takes past the held ones could have stood in front of them. -/
theorem Held.pass {last : Nat} {held : List (Nat × Char)} (h : Held last held) {x : Nat × Char}
    (hmeets : ∀ y ∈ held.head?, y.1 < x.1) : Alike (held.reverse ++ [x]) (x :: held.reverse) := by
  cases held with
  | nil => exact .refl _
  | cons y held =>
    have hy : y.1 < x.1 := hmeets y rfl
    refine Alike.move (by omega) _ fun z hz => ⟨h.mark z (List.mem_reverse.1 hz), ?_⟩
    rcases List.mem_cons.1 (List.mem_reverse.1 hz) with rfl | hz
    · omega
    · have := (List.pairwise_cons.1 h.falls).1 z hz
      omega

theorem joinFrom_alike (rest : List (Nat × Char)) (letter : Char) {held : List (Nat × Char)}
    {last : Nat} (hheld : Held last held) (hrest : ∀ x ∈ rest, IsPart x)
    (hrises : (last :: rest.map (·.1)).IsChain Rises) :
    Alike (apart (joinFrom letter held rest)) (apart [letter] ++ held.reverse ++ rest) := by
  induction rest generalizing letter held last with
  | nil =>
    rw [joinFrom, apart_cons, hheld.apart_reverse, List.append_nil]
    exact .refl _
  | cons x rest ih =>
    obtain ⟨k, c⟩ := x
    have hx : IsPart (k, c) := hrest _ List.mem_cons_self
    have hrest' : ∀ y ∈ rest, IsPart y := fun y hy => hrest y (List.mem_cons_of_mem _ hy)
    rw [List.map_cons, List.isChain_cons_cons] at hrises
    obtain ⟨hk, hrises⟩ := hrises
    rw [joinFrom]
    split
    next whole hjoin =>
      -- the letter takes the mark, which passes those that the letter did not take
      have hj : (∀ y ∈ held.head?, y.1 < k) ∧ joined? letter c = some whole := by
        cases held with
        | nil => simpa using hjoin
        | cons y held => simpa using hjoin
      have hheld' : Held k held := by
        rcases hk with rfl | hk
        · cases held with
          | nil => exact .nil _
          | cons y held => exact absurd (hj.1 y rfl) (Nat.not_lt_zero _)
        · exact hheld.mono hk
      have hparts : apart [whole] = apart [letter] ++ [(k, c)] := by
        simp [apart, decompose_joined hj.2, ← hx.1]
      have h := ih whole hheld' hrest' hrises
      rw [hparts] at h
      refine h.trans ?_
      simpa using ((hheld.pass hj.1).symm.append_right rest).append_left (apart [letter])
    next hjoin =>
      split
      next h0 =>
        -- another letter
        rw [List.append_assoc, apart_append, apart_cons, hheld.apart_reverse]
        have h := ih c (.nil k) hrest' hrises
        rw [apart_snd hx] at h
        simpa [apart_cons _ (joinFrom _ _ _)] using h.append_left (apart [letter] ++ held.reverse)
      next h0 =>
        -- a mark that stays
        have h := ih letter (hheld.cons hx h0 (hk.resolve_left h0)) hrest' hrises
        simpa using h

theorem gather_alike {l : List (Nat × Char)} (hpart : ∀ x ∈ l, IsPart x)
    (hrises : (l.map (·.1)).IsChain Rises) : Alike (apart (gather l)) l := by
  induction l with
  | nil => exact .refl _
  | cons x l ih =>
    obtain ⟨k, c⟩ := x
    have hx : IsPart (k, c) := hpart _ List.mem_cons_self
    have hpart' : ∀ y ∈ l, IsPart y := fun y hy => hpart y (List.mem_cons_of_mem _ hy)
    rw [gather]
    split
    next h0 =>
      have h := joinFrom_alike l c (.nil k) hpart' hrises
      rw [apart_snd hx] at h
      simpa using h
    next h0 =>
      rw [List.map_cons, List.isChain_cons] at hrises
      rw [apart_cons, apart_snd hx]
      exact (ih hpart' hrises.2).append_left [(k, c)]

theorem mem_arrange {l : List (Nat × Char)} {x : Nat × Char} : x ∈ arrange l ↔ x ∈ l := by
  have h {l m : List (Nat × Char)} (h : Alike l m) : x ∈ l ↔ x ∈ m := by
    induction h with
    | refl l => rfl
    | swap front back => simp only [List.mem_append, List.mem_cons, or_left_comm]
    | trans _ _ ih ih' => exact ih.trans ih'
  exact (h (arrange_alike l)).symm

theorem apart_compose_alike (cs : List Char) : Alike (apart (compose cs)) (arrange (apart cs)) := by
  rw [compose_eq]
  refine gather_alike (fun x hx => isPart_of_mem_apart (mem_arrange.1 hx)) ?_
  rw [List.isChain_map]
  exact arrange_rises (apart cs)

theorem compose_compose (cs : List Char) : compose (compose cs) = compose cs := by
  rw [compose_eq (compose cs), arrange_eq_of_alike (apart_compose_alike cs), arrange_arrange,
    ← compose_eq]

/-! ### Characters that stand for themselves -/

/-- What holds of a text's characters holds of the composed ones, if it passes to parts and to
wholes. -/
theorem joinFrom_all {P : Char → Prop} (hjoin : ∀ a b w, P a → P b → joined? a b = some w → P w)
    (rest : List (Nat × Char)) {letter : Char} {held : List (Nat × Char)} (hl : P letter)
    (hheld : ∀ x ∈ held, P x.2) (hrest : ∀ x ∈ rest, P x.2) :
    ∀ c ∈ joinFrom letter held rest, P c := by
  induction rest generalizing letter held with
  | nil =>
    intro c hc
    simp only [joinFrom, List.mem_cons, List.mem_reverse, List.mem_map] at hc
    rcases hc with rfl | ⟨x, hx, rfl⟩
    · exact hl
    · exact hheld x hx
  | cons x rest ih =>
    obtain ⟨hx, hrest⟩ := List.forall_mem_cons.1 hrest
    rw [joinFrom]
    split
    next whole hw =>
      have hw : joined? letter x.2 = some whole := by
        revert hw
        cases held with
        | nil => simp
        | cons y held => simp
      exact ih (hjoin _ _ _ hl hx hw) hheld hrest
    next =>
      split
      next =>
        intro c hc
        simp only [List.cons_append, List.mem_cons, List.mem_append, List.mem_reverse,
          List.mem_map] at hc
        rcases hc with rfl | ⟨y, hy, rfl⟩ | hc
        · exact hl
        · exact hheld y hy
        · exact ih hx (by simp) hrest c hc
      next => exact ih hl (List.forall_mem_cons.2 ⟨hx, hheld⟩) hrest

theorem gather_all {P : Char → Prop} (hjoin : ∀ a b w, P a → P b → joined? a b = some w → P w)
    {l : List (Nat × Char)} (hl : ∀ x ∈ l, P x.2) : ∀ c ∈ gather l, P c := by
  induction l with
  | nil => simp [gather]
  | cons x l ih =>
    obtain ⟨hx, hl⟩ := List.forall_mem_cons.1 hl
    rw [gather]
    split
    · exact joinFrom_all hjoin l hx (by simp) hl
    · exact List.forall_mem_cons.2 ⟨hx, ih hl⟩

theorem compose_all {P : Char → Prop} (hpart : ∀ c, P c → ∀ d ∈ decompose c, P d)
    (hjoin : ∀ a b w, P a → P b → joined? a b = some w → P w) {cs : List Char}
    (hcs : ∀ c ∈ cs, P c) : ∀ c ∈ compose cs, P c := by
  rw [compose_eq]
  refine gather_all hjoin fun x hx => ?_
  obtain ⟨d, hd, rfl⟩ := List.mem_map.1 (mem_arrange.1 hx)
  obtain ⟨c, hc, hd⟩ := List.mem_flatMap.1 hd
  exact hpart c (hcs c hc) d hd

/-- A character that is no part of another one, and no mark. -/
structure Plain (c : Char) : Prop where
  whole : decompose c = [c]
  letter : combiningClass c = 0
  notSecond : ∀ a, joined? a c = none

theorem Plain.apart {c : Char} (h : Plain c) : apart [c] = [(0, c)] := by
  simp [Text.apart, h.whole, classed, h.letter]

theorem putBehind_letter {c d : Nat × Char} (hd : d.1 = 0) (before back : List (Nat × Char)) :
    putBehind c (before ++ d :: back) = putBehind c before ++ d :: back := by
  induction before with
  | nil => simp [putBehind, hd]
  | cons e before ih =>
    simp only [List.cons_append, putBehind, ih]
    split <;> rfl

/-- Marks do not pass a letter. -/
theorem arrange_letter {d : Nat × Char} (hd : d.1 = 0) (l m : List (Nat × Char)) :
    arrange (l ++ d :: m) = arrange l ++ d :: arrange m := by
  have h (m before back : List (Nat × Char)) :
      m.foldl (fun before c => putBehind c before) (before ++ d :: back) =
        m.foldl (fun before c => putBehind c before) before ++ d :: back := by
    induction m generalizing before with
    | nil => rfl
    | cons x m ih => rw [List.foldl_cons, putBehind_letter hd, ih, List.foldl_cons]
  have hput (before : List (Nat × Char)) : putBehind d before = d :: before := by
    cases before <;> simp [putBehind, hd]
  rw [arrange, List.foldl_append, List.foldl_cons, hput, ← List.nil_append (d :: _), h,
    List.reverse_append, List.reverse_cons]
  simp [arrange]

/-- A letter that is no second part ends what comes before it. -/
theorem joinFrom_letter {d : Char} (hd : ∀ a, joined? a d = none) (l m : List (Nat × Char))
    (letter : Char) (held : List (Nat × Char)) :
    joinFrom letter held (l ++ (0, d) :: m) = joinFrom letter held l ++ joinFrom d [] m := by
  induction l generalizing letter held with
  | nil => simp [joinFrom, hd]
  | cons x l ih =>
    obtain ⟨k, c⟩ := x
    rw [List.cons_append, joinFrom, joinFrom]
    split
    · exact ih _ _
    · split
      · rw [ih, List.append_assoc]
      · exact ih _ _

theorem gather_letter {d : Char} (hd : ∀ a, joined? a d = none) (l m : List (Nat × Char)) :
    gather (l ++ (0, d) :: m) = gather l ++ joinFrom d [] m := by
  induction l with
  | nil => simp [gather]
  | cons x l ih =>
    obtain ⟨k, c⟩ := x
    rw [List.cons_append, gather, gather]
    split
    · exact joinFrom_letter hd l m c []
    · rw [ih, List.cons_append]

/-- A letter that is no first part takes nothing. -/
theorem joinFrom_lone {d : Char} (hd : ∀ c, joined? d c = none) (l held : List (Nat × Char)) :
    joinFrom d held l = d :: (held.map (·.2)).reverse ++ gather l := by
  induction l generalizing held with
  | nil => simp [joinFrom, gather]
  | cons x l ih =>
    obtain ⟨k, c⟩ := x
    rw [joinFrom, gather]
    simp only [hd, ite_self]
    split
    · rfl
    · rw [ih]
      simp

/-- A plain character that is no first part either keeps what stands on its sides apart. -/
theorem compose_wall {d : Char} (hd : Plain d) (hlone : ∀ c, joined? d c = none)
    (cs ds : List Char) : compose (cs ++ d :: ds) = compose cs ++ d :: compose ds := by
  simp only [compose_eq]
  rw [apart_append, apart_cons d ds, hd.apart, List.singleton_append, arrange_letter rfl,
    gather_letter hd.notSecond, joinFrom_lone hlone]
  simp

/-- Plain characters do not change. -/
theorem compose_plain {cs : List Char} (h : ∀ c ∈ cs, Plain c) : compose cs = cs := by
  have hone (d : Char) : ∀ ds : List Char, (∀ c ∈ ds, Plain c) →
      joinFrom d [] (arrange (apart ds)) = d :: ds ∧ gather (arrange (apart ds)) = ds := by
    intro ds hds
    induction ds generalizing d with
    | nil => simp [arrange, gather, joinFrom]
    | cons c ds ih =>
      obtain ⟨hc, hds⟩ := List.forall_mem_cons.1 hds
      have harr : arrange (apart (c :: ds)) = (0, c) :: arrange (apart ds) := by
        rw [apart_cons, hc.apart]
        exact arrange_letter rfl [] _
      rw [harr]
      refine ⟨?_, ?_⟩
      · rw [← List.nil_append ((0, c) :: _), joinFrom_letter hc.notSecond, (ih c hds).1]
        rfl
      · rw [gather, if_pos rfl, (ih c hds).1]
  rw [compose_eq]
  exact (hone ' ' cs h).2

end Intercept.Text
