import Intercept.Proofs.Url.Host
import Mathlib.Data.List.Chain

/-!
Codes that are not read. A label of a thousand characters is written, and each of them takes three
digits or more if the characters are far enough from each other; a code of more than two thousand
digits is read by nobody, so such a name is refused when it comes back.
-/

namespace Intercept.Url

namespace Punycode

/-! ### How long a code is -/

theorem three_digits {n : Nat} (h : 911 ≤ n) (bias place : Nat) :
    3 ≤ (numberFrom bias place n).length := by
  obtain ⟨ht, ht'⟩ := threshold_bounds place bias
  obtain ⟨hs, hs'⟩ := threshold_bounds (place + 36) bias
  have hnext : 26 ≤ (n - threshold place bias) / (36 - threshold place bias) := by
    rw [Nat.le_div_iff_mul_le (by omega)]
    omega
  have hlast := List.length_pos_iff.2 (numberFrom_ne_nil bias (place + 36 + 36)
    (((n - threshold place bias) / (36 - threshold place bias) - threshold (place + 36) bias) /
      (36 - threshold (place + 36) bias)))
  rw [numberFrom, if_neg (by omega), List.length_cons, numberFrom, if_neg (by omega),
    List.length_cons]
  omega

structure Grown (w v : Writer) : Prop where
  count : w.count ≤ v.count
  out : w.out.length ≤ v.out.length

theorem grown_writeAt (basic wanted : Nat) (w : Writer) (c : Char) :
    Grown w (writeAt basic wanted w c) := by
  rw [writeAt]
  split
  · exact ⟨le_rfl, le_rfl⟩
  · split
    · refine ⟨Nat.le_succ _, ?_⟩
      rw [List.length_append]
      exact Nat.le_add_right _ _
    · exact ⟨le_rfl, le_rfl⟩

theorem grown_pass (basic wanted : Nat) (label : List Char) (w : Writer) :
    Grown w (label.foldl (writeAt basic wanted) w) := by
  induction label generalizing w with
  | nil => exact ⟨le_rfl, le_rfl⟩
  | cons c label ih =>
    have hstep := grown_writeAt basic wanted w c
    have hrest := ih (writeAt basic wanted w c)
    exact ⟨hstep.count.trans hrest.count, hstep.out.trans hrest.out⟩

/-- A pass for a character that is there writes it, in three digits if there is far to go. -/
theorem pass_writes (basic wanted : Nat) {label : List Char} (h : wanted ∈ label.map Char.toNat)
    (w : Writer) :
    w.count + 1 ≤ (label.foldl (writeAt basic wanted) w).count ∧
      (911 ≤ w.delta → w.out.length + 3 ≤ (label.foldl (writeAt basic wanted) w).out.length) := by
  induction label generalizing w with
  | nil => cases h
  | cons c label ih =>
    rw [List.foldl_cons]
    by_cases hc : c.toNat = wanted
    · have hrest := grown_pass basic wanted label (writeAt basic wanted w c)
      have hput : writeAt basic wanted w c = ⟨w.out ++ numberFrom w.bias 36 w.delta, 0,
          adapt w.delta (w.count + 1) (w.count == basic), w.count + 1⟩ := by
        rw [writeAt, if_neg (by omega), if_pos hc]
      rw [hput] at hrest ⊢
      refine ⟨hrest.count, fun hfar => ?_⟩
      have hdigits := three_digits hfar w.bias 36
      have hout := hrest.out
      rw [List.length_append] at hout
      omega
    · have hmem : wanted ∈ label.map Char.toNat := by
        rw [List.map_cons, List.mem_cons] at h
        exact h.resolve_left fun he => hc he.symm
      rcases Nat.lt_or_gt_of_ne hc with hlt | hgt
      · have hstep : writeAt basic wanted w c = { w with delta := w.delta + 1 } := by
          rw [writeAt, if_pos hlt]
        obtain ⟨hcount, hout⟩ := ih hmem { w with delta := w.delta + 1 }
        rw [hstep]
        exact ⟨hcount, fun hfar => hout (Nat.le_succ_of_le hfar)⟩
      · have hstep : writeAt basic wanted w c = w := by
          rw [writeAt, if_neg (by omega), if_neg hc]
        rw [hstep]
        exact ih hmem w

/-- Points that are this far from each other take three digits each, but for the first ones. -/
theorem writeFrom_length (label : List Char) (basic : Nat) {more : List Nat} {reached : Nat}
    (w : Writer) (hmem : ∀ q ∈ more, q ∈ label.map Char.toNat)
    (hfirst : ∀ q ∈ more, reached + 59 ≤ q)
    (hspaced : more.Pairwise fun p q => p + 60 ≤ q) :
    w.out.length + 3 * (more.length - (15 - w.count)) ≤
      (writeFrom label basic more reached w).out.length := by
  induction more generalizing reached w with
  | nil => simp [writeFrom]
  | cons wanted more ih =>
    obtain ⟨hwanted, hmem⟩ := List.forall_mem_cons.1 hmem
    obtain ⟨hfar, hspaced⟩ := List.pairwise_cons.1 hspaced
    have hle := hfirst wanted List.mem_cons_self
    rw [writeFrom]
    set far : Writer := { w with delta := w.delta + (wanted - reached) * (w.count + 1) } with hdef
    set v := label.foldl (writeAt basic wanted) far
    obtain ⟨hcount, hout⟩ : far.count + 1 ≤ v.count ∧
        (911 ≤ far.delta → far.out.length + 3 ≤ v.out.length) :=
      pass_writes basic wanted hwanted far
    have hgrown : far.out.length ≤ v.out.length := (grown_pass basic wanted label far).out
    have hrest := ih { v with delta := v.delta + 1 } hmem
      (fun q hq => by have := hfar q hq; omega : ∀ q ∈ more, wanted + 1 + 59 ≤ q) hspaced
    refine Nat.le_trans ?_ hrest
    simp only [hdef] at hcount hout hgrown ⊢
    rw [List.length_cons]
    by_cases hmany : 15 ≤ w.count
    · have hdelta : 59 * 16 ≤ (wanted - reached) * (w.count + 1) :=
        Nat.mul_le_mul (by omega) (by omega)
      have := hout (by omega)
      omega
    · omega

theorem encode_length {label : List Char} (hbeyond : ∀ c ∈ label, 187 ≤ c.toNat)
    (hnew : (label.map Char.toNat).Nodup)
    (hspaced : ∀ p ∈ label.map Char.toNat, ∀ q ∈ label.map Char.toNat, p < q → p + 60 ≤ q) :
    3 * (label.length - 15) ≤ (encode label).length := by
  obtain ⟨hsorted, hnodup, hmem⟩ := beyond_spec label
  have hmem' (n : Nat) : n ∈ beyond label ↔ n ∈ label.map Char.toNat := by
    rw [hmem, and_iff_right_iff_imp]
    intro hn
    obtain ⟨c, hc, rfl⟩ := List.mem_map.1 hn
    have := hbeyond c hc
    omega
  have hlen : (beyond label).length = label.length := by
    rw [((List.perm_ext_iff_of_nodup hnodup hnew).2 hmem').length_eq, List.length_map]
  have hpairs : (beyond label).Pairwise fun p q => p + 60 ≤ q := by
    refine (hsorted.and hnodup).imp_of_mem fun hp hq h => ?_
    exact hspaced _ ((hmem' _).1 hp) _ ((hmem' _).1 hq) (Nat.lt_of_le_of_ne h.1 h.2)
  have hfirst : ∀ q ∈ beyond label, 128 + 59 ≤ q := by
    intro q hq
    obtain ⟨c, hc, rfl⟩ := List.mem_map.1 ((hmem' q).1 hq)
    exact hbeyond c hc
  have hbound := writeFrom_length label (basic label).length
    ⟨[], 0, 72, (basic label).length⟩ (fun q hq => (hmem' q).1 hq) hfirst hpairs
  rw [encode_eq, List.length_append, List.length_append, numbers]
  rw [hlen, List.length_nil] at hbound
  omega

end Punycode

namespace Domain

open Text Form

/-! ### Ideographs -/

/-- A character of the oldest block of the second plane: no mark, and of no other spelling. -/
def Ideograph (c : Char) : Prop := 0x20000 ≤ c.toNat ∧ c.toNat ≤ 0x2A6D6

/-- No other character is among ideographs. -/
theorem notMem_ideographs {label : List Char} (h : ∀ c ∈ label, Ideograph c) {d : Char}
    (hd : d.toNat < 0x20000) : d ∉ label := fun hmem => by
  have := (h d hmem).1
  omega

def spares (ranges : Ranges) : Bool := ranges.all fun r => r.2 < 0x20000 || 0x2A6D6 < r.1

theorem has_of_spares {ranges : Ranges} (h : spares ranges = true) {c : Char} (hc : Ideograph c) :
    ranges.has c = false := by
  rw [Ranges.has, List.any_eq_false]
  intro r hr
  have hout := List.all_eq_true.1 h r hr
  obtain ⟨hlo, hhi⟩ := hc
  simp only [Bool.or_eq_true, decide_eq_true_eq] at hout
  simp only [Bool.and_eq_true, decide_eq_true_eq, not_and]
  omega

theorem tables_spare :
    ((fixedClasses ++ placeClasses).all fun k => spares k.2) = true ∧
      (spares nonspacingLow = true ∧ spares nonspacingHigh = true ∧ spares spacingMarks = true) ∧
      spares Direction.rightRanges = true ∧ spares Direction.arabicNumberRanges = true := by
  decide +kernel

theorem plain_ideograph {c : Char} (h : Ideograph c) : Plain c := by
  obtain ⟨hlo, hhi⟩ := h
  have hruled : c.toNat ∉ ruled := fun hc => by
    have := lt_of_ruled hc
    omega
  refine ⟨?_, ?_, fun a => ?_⟩
  · refine decompose_of_notMem (Syllable.ofCode?_eq_none.2 (by omega)) fun hw => ?_
    obtain ⟨a, b, hr⟩ := mem_wholes.1 hw
    exact hruled (ruled_of_rule hr).2.2
  · rw [combiningClass, if_neg (by omega)]
    have hnone : (fixedClasses ++ placeClasses).find? (·.2.has c) = none := by
      rw [List.find?_eq_none]
      intro k hk
      rw [has_of_spares (List.all_eq_true.1 tables_spare.1 k hk) ⟨hlo, hhi⟩]
      simp
    rw [hnone]
  · cases hj : joined? a c with
    | none => rfl
    | some w =>
      exfalso
      obtain ⟨n, -, hn | hr⟩ := joined?_cases hj
      · rw [Syllable.join?] at hn
        split at hn
        next hjamo =>
          simp only [Syllable.vowelBase, Syllable.vowels] at hjamo
          omega
        next =>
          split at hn
          next =>
            split at hn
            next htail =>
              simp only [Syllable.tailBase, Syllable.tails] at htail
              omega
            next => cases hn
          next => cases hn
      · exact hruled (ruled_of_rule hr).2.1

theorem allowed_ideograph {c : Char} (h : Ideograph c) : isForbidden c = false := by
  have hsigns : ("%#/:<>?@[\\]^|".toList.all fun d => decide (d.toNat < 0x80)) = true := rfl
  have hnot : "%#/:<>?@[\\]^|".toList.contains c = false := by
    rw [Bool.eq_false_iff, ne_eq, List.contains_iff_mem]
    intro hc
    have := of_decide_eq_true (List.all_eq_true.1 hsigns c hc)
    have := h.1
    omega
  have := h.1
  rw [isForbidden, hnot, Bool.or_false, Bool.or_eq_false_iff]
  simp only [decide_eq_false_iff_not, beq_eq_false_iff_ne]
  omega

theorem normal_ideographs {label : List Char} (h : ∀ c ∈ label, Ideograph c) : Normal label :=
  ⟨fun c hc => ideograph_stays (h c hc), compose_plain fun c hc => plain_ideograph (h c hc),
    fun c hc => allowed_ideograph (h c hc)⟩

theorem joinersFit_ideographs {label : List Char} (h : ∀ c ∈ label, Ideograph c) :
    joinersFit label = true := by
  have hfrom (before : List Char) : joinersFitFrom before label = true := by
    induction label generalizing before with
    | nil => rfl
    | cons c label ih =>
      obtain ⟨hc, hlabel⟩ := List.forall_mem_cons.1 h
      have hne {d : Char} (hd : d.toNat < 0x20000) : (c == d) = false := by
        have hnot := notMem_ideographs h hd
        rw [List.mem_cons, not_or] at hnot
        exact beq_eq_false_iff_ne.2 (Ne.symm hnot.1)
      rw [joinersFitFrom, hne (d := joiner) (by decide), hne (d := nonJoiner) (by decide),
        ih hlabel]
      rfl
  exact hfrom []

theorem leftward_ideograph {c : Char} (h : Ideograph c) :
    (Direction.ofChar c).isRightward = false := by
  obtain ⟨-, -, hright, hnumber⟩ := tables_spare
  have := h.1
  rw [Direction.ofChar, if_neg (by omega), has_of_spares hright h, has_of_spares hnumber h]
  simp only [Bool.false_eq_true, if_false]
  split
  · rfl
  · split
    · rfl
    · split
      · rfl
      · split <;> rfl

/-- A label of ideographs is written in its code. -/
theorem toAscii_ideographs {label : List Char} (hne : label ≠ []) (hlen : label.length ≤ longest)
    (h : ∀ c ∈ label, Ideograph c) : toAscii label = some (mark ++ Punycode.encode label) := by
  obtain ⟨first, rest, hfirst⟩ := List.exists_cons_of_ne_nil hne
  have hhead : Ideograph first := h first (hfirst ▸ List.mem_cons_self)
  have hlo := hhead.1
  have hnot {d : Char} (hd : d.toNat < 0x20000) : d ∉ label := notMem_ideographs h hd
  have hascii : isAscii label = false := by
    rw [Bool.eq_false_iff, ne_eq, isAscii_iff]
    intro hall
    have := hall first (hfirst ▸ List.mem_cons_self)
    omega
  have hmark : mark.isPrefixOf label = false := by
    rw [Bool.eq_false_iff, ne_eq, List.isPrefixOf_iff_prefix]
    exact fun hbegins => hnot (d := 'x') (by decide) (hbegins.subset List.mem_cons_self)
  have hisMark : isMark first = false := by
    obtain ⟨-, ⟨hlow, hhigh, hspacing⟩, -⟩ := tables_spare
    rw [isMark, isNonspacing, has_of_spares hlow hhead, has_of_spares hhigh hhead,
      has_of_spares hspacing hhead]
    simp
  have hsound : isSound label = true := by
    rw [isSound, joinersFit_ideographs h, hfirst]
    simp only [List.head?_cons, Option.map_some, Option.getD_some, hisMark]
    simp [← hfirst, hlen]
  have hkeeps : keepsDirection [label] = true := by
    have hleft :
        (([label].map (·.map Direction.ofChar)).any (·.any Direction.isRightward)) = false := by
      simp only [List.any_map, List.any_cons, List.any_nil, Bool.or_false, List.any_eq_false,
        Function.comp_apply, Bool.not_eq_true]
      exact fun c hc => leftward_ideograph (h c hc)
    rw [keepsDirection]
    simp only [hleft, Bool.not_false, Bool.true_or]
  rw [toAscii, normalize_of_normal (normal_ideographs h)]
  simp only [Option.bind_eq_bind, Option.bind_some, split_of_notMem (hnot (d := '.') (by decide)),
    List.mapM_cons, List.mapM_nil]
  simp [readLabel?, hmark, hsound, hkeeps, writeLabel, hascii]

end Domain

namespace Host

open Domain

/-- No coded label is a number. -/
theorem endsInNumber_coded {code : List Char} (hdot : '.' ∉ mark ++ code) :
    endsInNumber (mark ++ code) = false := by
  have hcs : mark ++ code = 'x' :: ("n--".toList ++ code) := rfl
  have hlabels : labels (mark ++ code) = [mark ++ code] := by
    rw [labels, Form.split_of_notMem hdot, if_neg]
    simp [hcs]
  have hpart : part? (mark ++ code) = none := by
    rw [hcs, part?]
    · rfl
    · simp
    · simp
    · simp
  rw [endsInNumber, hlabels, List.getLast?_singleton]
  simp only [hpart]
  rw [hcs]
  rfl

theorem dot_notMem_code {label : List Char} (h : ∀ c ∈ label, Ideograph c) :
    '.' ∉ mark ++ Punycode.encode label := by
  rw [List.mem_append, not_or]
  refine ⟨by decide, fun hdot => ?_⟩
  rcases mem_encode hdot with ⟨hmem, -⟩ | he | hd
  · exact notMem_ideographs h (by decide) hmem
  · cases he
  · exact hd.ne (by decide) rfl

theorem ofText_ideographs {label : List Char} (hne : label ≠ []) (hlen : label.length ≤ longest)
    (h : ∀ c ∈ label, Ideograph c) :
    ofText label = .ok (.domain (mark ++ Punycode.encode label)) := by
  have hnot {d : Char} (hd : d.toNat < 0x20000) : d ∉ label := notMem_ideographs h hd
  have hcs : mark ++ Punycode.encode label = 'x' :: ("n--".toList ++ Punycode.encode label) := rfl
  have hnumber := endsInNumber_coded (dot_notMem_code h)
  rw [ofText, if_neg fun hhead => hnot (d := '[') (by decide) (List.mem_of_head? hhead),
    ofUtf8?_decodeBytes (hnot (by decide)), Option.bind_some, toAscii_ideographs hne hlen h]
  rw [hcs] at hnumber ⊢
  simp only [hnumber]
  rfl

/-- A label of ideographs that are far from each other has a code that is not read. -/
theorem overlong_ideographs {label : List Char} (hlong : 682 ≤ label.length)
    (h : ∀ c ∈ label, Ideograph c) (hnew : (label.map Char.toNat).Nodup)
    (hspaced : ∀ p ∈ label.map Char.toNat, ∀ q ∈ label.map Char.toNat, p < q → p + 60 ≤ q) :
    (Host.domain (mark ++ Punycode.encode label)).isOverlong = true := by
  have hcode := Punycode.encode_length (fun c hc => by have := (h c hc).1; omega) hnew hspaced
  have hbegins : mark.isPrefixOf (mark ++ Punycode.encode label) = true := by
    rw [List.isPrefixOf_iff_prefix]
    exact List.prefix_append _ _
  rw [isOverlong, hasOverlong, Form.split_of_notMem (dot_notMem_code h), List.any_cons,
    Domain.isOverlong, hbegins, List.drop_left]
  have hmore : longestCode < (Punycode.encode label).length := by
    rw [longestCode]
    omega
  simp [hmore]

end Host

end Intercept.Url
