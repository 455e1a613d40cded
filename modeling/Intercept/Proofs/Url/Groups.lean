import Intercept.Proofs.Url.Form
import Intercept.Url.Host
import Mathlib.Algebra.Group.Nat.Defs
import Mathlib.Data.List.Induction
import Mathlib.Order.Basic

/-!
Addresses of eight groups are read as they are written. The longest run of zeros is left out when
they are written, and the reader fills it in again: it keeps one zero of a run, whose place it
remembers.
-/

namespace Intercept.Url.Host

/-! ### Digits -/

theorem hexDigit?_digitChar {d : Nat} (h : d < 16) :
    hexDigit? (UInt8.ofNat d.digitChar.toNat) = some d ∧ d.digitChar.toNat < 128 := by
  have hall : ∀ e < 16, hexDigit? (UInt8.ofNat e.digitChar.toNat) = some e ∧
      e.digitChar.toNat < 128 := by decide
  exact hall d h

theorem ofDigits?_snoc {base m d : Nat} {front : List Char} (hbase : base ≤ 16) (hd : d < base)
    (hfront : ofDigits? base front = some m) :
    ofDigits? base (front ++ [d.digitChar]) = some (m * base + d) := by
  obtain ⟨hhex, hascii⟩ := hexDigit?_digitChar (Nat.lt_of_lt_of_le hd hbase)
  rw [ofDigits?] at hfront ⊢
  rw [List.foldlM_append, hfront]
  simp [hhex, hascii, hd]

/-- Digits are read as they are written. -/
theorem ofDigits?_toDigits {base : Nat} (hbase : 1 < base) (hle : base ≤ 16) (n : Nat) :
    ofDigits? base (Nat.toDigits base n) = some n := by
  induction n using Nat.strongRecOn with
  | _ n ih =>
    rcases Nat.lt_or_ge n base with hlt | hge
    · rw [Nat.toDigits_of_lt_base hlt]
      exact (ofDigits?_snoc hle hlt (rfl : ofDigits? base [] = some 0)).trans (by simp)
    · rw [Nat.toDigits_of_base_le hbase hge, ofDigits?_snoc hle (Nat.mod_lt _ (by omega))
        (ih _ (Nat.div_lt_self (by omega) hbase)), Nat.div_add_mod']

theorem digitChar_of_mem_toDigits {base : Nat} (hbase : 1 < base) {n : Nat} {c : Char}
    (h : c ∈ Nat.toDigits base n) : ∃ d < base, c = d.digitChar := by
  induction n using Nat.strongRecOn with
  | _ n ih =>
    rcases Nat.lt_or_ge n base with hlt | hge
    · rw [Nat.toDigits_of_lt_base hlt, List.mem_singleton] at h
      exact ⟨n, hlt, h⟩
    · rw [Nat.toDigits_of_base_le hbase hge, List.mem_append, List.mem_singleton] at h
      rcases h with h | rfl
      · exact ih _ (Nat.div_lt_self (by omega) hbase) h
      · exact ⟨_, Nat.mod_lt _ (by omega), rfl⟩

theorem ofDigits?_lt {base : Nat} {cs : List Char} {n : Nat} (h : ofDigits? base cs = some n) :
    n < base ^ cs.length := by
  induction cs using List.reverseRecOn generalizing n with
  | nil =>
    cases h
    exact Nat.one_pos
  | append_singleton front c ih =>
    rw [ofDigits?, List.foldlM_append] at h
    obtain ⟨m, hm, h⟩ := Option.bind_eq_some_iff.1 h
    have hlt : m < base ^ front.length := ih hm
    simp only [List.foldlM_cons, List.foldlM_nil, Option.bind_eq_bind] at h
    obtain ⟨k, hk, hn⟩ := Option.bind_eq_some_iff.1 h
    cases hn
    split at hk
    next d _ =>
      split at hk
      next hd =>
        cases hk
        have hle : (m + 1) * base ≤ base ^ front.length * base := Nat.mul_le_mul_right _ hlt
        rw [List.length_append, List.length_singleton, Nat.pow_succ]
        rw [Nat.add_mul] at hle
        omega
      next => cases hk
    next => cases hk

theorem ofDigits?_colon : ofDigits? 16 [':'] = none := by decide

/-! ### Groups -/

structure Groups (groups : List Nat) : Prop where
  length : groups.length = 8
  small : ∀ n ∈ groups, n < 0x10000

theorem group_lt (cs : List Char) : (group cs).1 < 0x10000 := by
  rw [group]
  set ds := (cs.take 4).takeWhile fun c => (ofDigits? 16 [c]).isSome
  have hlen : ds.length ≤ 4 :=
    Nat.le_trans (List.takeWhile_sublist _).length_le (List.length_take_le 4 cs)
  cases hn : ofDigits? 16 ds with
  | none => exact (by decide : 0 < 0x10000)
  | some n =>
    calc n < 16 ^ ds.length := ofDigits?_lt hn
      _ ≤ 16 ^ 4 := Nat.pow_le_pow_right (by decide) hlen

/-- A group is read as it is written, with a colon or nothing behind it. -/
theorem group_written {n : Nat} (h : n < 0x10000) {rest : List Char}
    (hrest : rest = [] ∨ ∃ more, rest = ':' :: more) :
    group (Nat.toDigits 16 n ++ rest) = (n, rest) := by
  have hlen : (Nat.toDigits 16 n).length ≤ 4 :=
    (Nat.length_toDigits_le_iff (by decide) (by decide)).2 h
  have hhex : ∀ c ∈ Nat.toDigits 16 n, (ofDigits? 16 [c]).isSome = true := by
    intro c hc
    obtain ⟨d, hd, rfl⟩ := digitChar_of_mem_toDigits (by decide) hc
    have hall : ∀ e < 16, (ofDigits? 16 [e.digitChar]).isSome = true := by decide
    exact hall d hd
  have hds : ((Nat.toDigits 16 n ++ rest).take 4).takeWhile
      (fun c => (ofDigits? 16 [c]).isSome) = Nat.toDigits 16 n := by
    rw [List.take_append, List.take_of_length_le hlen, List.takeWhile_append_of_pos hhex]
    rcases hrest with rfl | ⟨more, rfl⟩
    · simp
    · cases 4 - (Nat.toDigits 16 n).length with
      | zero => simp
      | succ k => simp [ofDigits?_colon]
  have hread : ofDigits? 16 (Nat.toDigits 16 n) = some n :=
    ofDigits?_toDigits (by decide) (by decide) n
  rw [group]
  simp only [hds, List.drop_left, hread, Option.getD_some]

theorem byte?_le {cs rest : List Char} {n : Nat} (h : byte? cs = some (n, rest)) : n ≤ 255 := by
  rw [byte?] at h
  split at h
  next m _ =>
    split at h
    next => cases h
    next hfits =>
      cases h
      omega
  next => cases h

theorem dotted?_small {cs : List Char} {ns : List Nat} (h : dotted? cs = some ns) :
    ns.length = 2 ∧ ∀ n ∈ ns, n < 0x10000 := by
  unfold dotted? at h
  obtain ⟨⟨a, cs⟩, ha, h⟩ := Option.bind_eq_some_iff.1 h
  simp only at h
  split at h
  next =>
    obtain ⟨⟨b, cs⟩, hb, h⟩ := Option.bind_eq_some_iff.1 h
    simp only at h
    split at h
    next =>
      obtain ⟨⟨c, cs⟩, hc, h⟩ := Option.bind_eq_some_iff.1 h
      simp only at h
      split at h
      next =>
        obtain ⟨⟨d, cs⟩, hd, h⟩ := Option.bind_eq_some_iff.1 h
        simp only at h
        split at h
        next =>
          cases h
          have := byte?_le ha
          have := byte?_le hb
          have := byte?_le hc
          have := byte?_le hd
          refine ⟨rfl, ?_⟩
          simp only [List.mem_cons, List.not_mem_nil, or_false, forall_eq_or_imp, forall_eq]
          omega
        next => cases h
      next => cases h
    next => cases h
  next => cases h

theorem fill_groups {seen groups : List Nat} {gap : Option Nat} (hlen : seen.length ≤ 8)
    (hsmall : ∀ n ∈ seen, n < 0x10000) (h : fill seen gap = some groups) : Groups groups := by
  cases gap with
  | none =>
    rw [fill] at h
    split at h
    next height =>
      cases h
      exact ⟨height, hsmall⟩
    next => cases h
  | some gap =>
    cases h
    refine ⟨?_, fun n hn => ?_⟩
    · simp only [List.length_append, List.length_take, List.length_replicate, List.length_drop]
      omega
    · simp only [List.mem_append, List.mem_replicate] at hn
      rcases hn with (hn | ⟨-, rfl⟩) | hn
      · exact hsmall n (List.mem_of_mem_take hn)
      · decide
      · exact hsmall n (List.mem_of_mem_drop hn)

theorem groupsFrom_groups (fuel : Nat) {seen groups : List Nat} {gap : Option Nat} {cs : List Char}
    (hlen : seen.length ≤ 8) (hsmall : ∀ n ∈ seen, n < 0x10000)
    (h : groupsFrom fuel seen gap cs = some groups) : Groups groups := by
  induction fuel generalizing seen gap cs with
  | zero => cases h
  | succ fuel ih =>
    have snoc {n : Nat} (hn : n < 0x10000) : ∀ m ∈ seen ++ [n], m < 0x10000 := by
      intro m hm
      rcases List.mem_append.1 hm with hm | hm
      · exact hsmall m hm
      · exact List.mem_singleton.1 hm ▸ hn
    cases cs with
    | nil => exact fill_groups hlen hsmall h
    | cons c cs =>
      rw [groupsFrom] at h
      split at h
      next => cases h
      next hne =>
        have hmore (n : Nat) : (seen ++ [n]).length ≤ 8 := by
          rw [List.length_append, List.length_singleton]
          omega
        split at h
        next =>
          split at h
          next => cases h
          next => exact ih (hmore 0) (snoc (by decide)) h
        next =>
          simp only at h
          split at h
          next => exact ih (hmore _) (snoc (group_lt _)) h
          next =>
            split at h
            next => cases h
            next hseen =>
              obtain ⟨ns, hns, h⟩ := Option.bind_eq_some_iff.1 h
              obtain ⟨htwo, hnew⟩ := dotted?_small hns
              refine fill_groups ?_ (List.forall_mem_append.2 ⟨hsmall, hnew⟩) h
              rw [List.length_append]
              omega
          next =>
            split at h
            next => cases h
            next => exact ih (hmore _) (snoc (group_lt _)) h
          next => cases h

theorem ipv6?_groups {cs : List Char} {groups : List Nat} (h : ipv6? cs = some groups) :
    Groups groups := by
  unfold ipv6? at h
  split at h
  next => cases h
  next =>
    split at h
    next => exact groupsFrom_groups _ (by simp) (by simp) h
    next => cases h
    next => exact groupsFrom_groups _ (by simp) (by simp) h

/-! ### Reading what is written -/

theorem groupChars_nil : groupChars [] = [] := rfl

theorem groupChars_singleton (n : Nat) : groupChars [n] = Nat.toDigits 16 n := by
  simp [groupChars]

theorem groupChars_cons (n m : Nat) (ns : List Nat) :
    groupChars (n :: m :: ns) = Nat.toDigits 16 n ++ ':' :: groupChars (m :: ns) := by
  simp [groupChars, List.intercalate]

/-- A group begins with a digit. -/
theorem digits_cons (n : Nat) (rest : List Char) :
    ∃ c cs, Nat.toDigits 16 n ++ rest = c :: cs ∧ c ≠ ':' := by
  obtain ⟨c, cs, hcs⟩ := List.exists_cons_of_ne_nil (Nat.toDigits_ne_nil (b := 16) (n := n))
  refine ⟨c, cs ++ rest, by rw [hcs, List.cons_append], ?_⟩
  obtain ⟨d, hd, rfl⟩ := digitChar_of_mem_toDigits (by decide) (hcs ▸ List.mem_cons_self)
  have hall : ∀ e < 16, e.digitChar ≠ ':' := by decide
  exact hall d hd

theorem groupChars_ne_nil (n : Nat) (ns : List Nat) : groupChars (n :: ns) ≠ [] := by
  cases ns with
  | nil =>
    rw [groupChars_singleton]
    exact Nat.toDigits_ne_nil
  | cons m ns =>
    rw [groupChars_cons]
    simp

/-- A group in front of others is taken. -/
theorem groupsFrom_group {n : Nat} (hn : n < 0x10000) (fuel : Nat) {seen : List Nat}
    (gap : Option Nat) {rest : List Char} (hlen : seen.length < 8) (hrest : rest ≠ []) :
    groupsFrom (fuel + 1) seen gap (Nat.toDigits 16 n ++ ':' :: rest) =
      groupsFrom fuel (seen ++ [n]) gap rest := by
  obtain ⟨c, cs, hcs, hc⟩ := digits_cons n (':' :: rest)
  have hgroup := group_written hn (.inr ⟨rest, rfl⟩)
  have hmore : rest.isEmpty = false := by simpa using hrest
  rw [hcs] at hgroup ⊢
  rw [groupsFrom, if_neg (by omega), if_neg hc, hgroup]
  simp only [hmore, Bool.false_eq_true, if_false]

/-- A second colon stands for a run of zeros, of which one is kept. -/
theorem groupsFrom_colon (fuel : Nat) {seen : List Nat} (rest : List Char)
    (hlen : seen.length < 8) :
    groupsFrom (fuel + 1) seen none (':' :: rest) =
      groupsFrom fuel (seen ++ [0]) (some (seen.length + 1)) rest := by
  rw [groupsFrom, if_neg (by omega), if_pos rfl]
  simp only [Option.isSome_none, Bool.false_eq_true, if_false]

/-- The last groups are read up to the end of the text. -/
theorem groupsFrom_last {ns : List Nat} (hns : ∀ n ∈ ns, n < 0x10000) {fuel : Nat}
    {seen : List Nat} {gap : Option Nat} (hlen : seen.length + ns.length ≤ 8)
    (hfuel : (groupChars ns).length < fuel) :
    groupsFrom fuel seen gap (groupChars ns) = fill (seen ++ ns) gap := by
  induction ns generalizing fuel seen with
  | nil =>
    obtain ⟨fuel, rfl⟩ : ∃ f, fuel = f + 1 := ⟨fuel - 1, by omega⟩
    rw [groupChars_nil, groupsFrom, List.append_nil]
  | cons n ns ih =>
    obtain ⟨hn, hns⟩ := List.forall_mem_cons.1 hns
    obtain ⟨fuel, rfl⟩ : ∃ f, fuel = f + 1 := ⟨fuel - 1, by omega⟩
    rw [List.length_cons] at hlen
    cases ns with
    | nil =>
      obtain ⟨c, cs, hcs, hc⟩ := digits_cons n []
      have hgroup := group_written hn (.inl rfl)
      rw [List.append_nil] at hcs hgroup
      rw [groupChars_singleton, hcs] at hfuel ⊢
      rw [hcs] at hgroup
      obtain ⟨fuel, rfl⟩ : ∃ f, fuel = f + 1 := ⟨fuel - 1, by rw [List.length_cons] at hfuel; omega⟩
      rw [groupsFrom, if_neg (by omega), if_neg hc, hgroup]
      rfl
    | cons m ns =>
      rw [groupChars_cons, List.length_append, List.length_cons] at hfuel
      rw [groupChars_cons, groupsFrom_group hn fuel gap (by omega) (groupChars_ne_nil m ns),
        ih hns (by simp at hlen ⊢; omega) (by omega), List.append_assoc, List.singleton_append]

/-- The groups in front of a run of zeros that is left out, the run, and the groups behind it. -/
theorem groupsFrom_gap {front back : List Nat} (hne : front ≠ [])
    (hfront : ∀ n ∈ front, n < 0x10000) (hback : ∀ n ∈ back, n < 0x10000)
    {fuel : Nat} {seen : List Nat}
    (hlen : seen.length + front.length + back.length < 8)
    (hfuel : (groupChars front ++ ':' :: ':' :: groupChars back).length < fuel) :
    groupsFrom fuel seen none (groupChars front ++ ':' :: ':' :: groupChars back) =
      fill (seen ++ front ++ [0] ++ back) (some (seen.length + front.length + 1)) := by
  induction front generalizing fuel seen with
  | nil => exact absurd rfl hne
  | cons n front ih =>
    obtain ⟨hn, hfront⟩ := List.forall_mem_cons.1 hfront
    obtain ⟨fuel, rfl⟩ : ∃ f, fuel = f + 1 := ⟨fuel - 1, by omega⟩
    rw [List.length_cons] at hlen
    cases front with
    | nil =>
      rw [groupChars_singleton, List.length_append, List.length_cons, List.length_cons] at hfuel
      obtain ⟨fuel, rfl⟩ : ∃ f, fuel = f + 1 := ⟨fuel - 1, by omega⟩
      rw [groupChars_singleton, groupsFrom_group hn _ none (by omega) (by simp),
        groupsFrom_colon fuel _ (by simp; omega), groupsFrom_last hback (by simp; omega) (by omega)]
      simp
    | cons m front =>
      rw [groupChars_cons, List.append_assoc, List.cons_append, List.length_append,
        List.length_cons] at hfuel
      rw [groupChars_cons, List.append_assoc, List.cons_append,
        groupsFrom_group hn fuel none (by omega) (by simp),
        ih (by simp) hfront (by simp at hlen ⊢; omega) (by omega)]
      simp [Nat.add_assoc, Nat.add_comm 1]

/-! ### Runs of zeros -/

def zerosFrom (groups : List Nat) (i : Nat) : Nat := ((groups.drop i).takeWhile (· == 0)).length

/-- What one more place makes of the best run up to it. -/
def longer (groups : List Nat) (best : Option (Nat × Nat)) (i : Nat) : Option (Nat × Nat) :=
  match best with
  | none => if 2 ≤ zerosFrom groups i then some (i, zerosFrom groups i) else none
  | some (_, m) => if m < zerosFrom groups i then some (i, zerosFrom groups i) else best

theorem longestRun_eq (groups : List Nat) :
    longestRun groups = (List.range groups.length).foldl (longer groups) none := rfl

def IsRun (groups : List Nat) (run : Nat × Nat) : Prop := 2 ≤ run.2 ∧ run.2 = zerosFrom groups run.1

theorem isRun_longer {groups : List Nat} {best : Option (Nat × Nat)}
    (h : ∀ run ∈ best, IsRun groups run) (i : Nat) :
    ∀ run ∈ longer groups best i, IsRun groups run := by
  intro run hrun
  cases best with
  | none =>
    simp only [longer] at hrun
    split at hrun
    next htwo =>
      cases hrun
      exact ⟨htwo, rfl⟩
    next => cases hrun
  | some old =>
    obtain ⟨htwo, -⟩ := h old rfl
    simp only [longer] at hrun
    split at hrun
    next hlt =>
      cases hrun
      exact ⟨by omega, rfl⟩
    next => exact h run hrun

theorem longestRun_eq_some {groups : List Nat} {i n : Nat} (h : longestRun groups = some (i, n)) :
    2 ≤ n ∧ n = zerosFrom groups i := by
  have hfold (places : List Nat) {best : Option (Nat × Nat)}
      (hbest : ∀ run ∈ best, IsRun groups run) :
      ∀ run ∈ places.foldl (longer groups) best, IsRun groups run := by
    induction places generalizing best with
    | nil => exact hbest
    | cons place places ih => exact ih (isRun_longer hbest place)
  rw [longestRun_eq] at h
  exact hfold _ (by simp) _ h

/-- A run that is left out is one of zeros, and there is at least one of them. -/
theorem longestRun_spec {groups : List Nat} {i n : Nat} (h : longestRun groups = some (i, n)) :
    0 < n ∧ groups = groups.take i ++ List.replicate n 0 ++ groups.drop (i + n) := by
  obtain ⟨htwo, hn⟩ := longestRun_eq_some h
  have hzeros : (groups.drop i).takeWhile (· == 0) = List.replicate n 0 := by
    rw [List.eq_replicate_iff]
    refine ⟨hn.symm, fun m hm => ?_⟩
    simpa using List.all_eq_true.1 List.all_takeWhile m hm
  have hdrop : groups.drop i = List.replicate n 0 ++ groups.drop (i + n) := by
    have hsplit := List.takeWhile_append_dropWhile (p := (· == 0)) (l := groups.drop i)
    have hback : (groups.drop i).dropWhile (· == 0) = (groups.drop i).drop n := by
      conv_rhs => rw [← hsplit]
      rw [hzeros, List.drop_left' List.length_replicate]
    rw [hzeros, hback, List.drop_drop] at hsplit
    exact hsplit.symm
  refine ⟨by omega, ?_⟩
  rw [List.append_assoc, ← hdrop, List.take_append_drop]

/-- What was left out is filled in. -/
theorem fill_gap (front back : List Nat) {n : Nat} (hn : 0 < n)
    (hlen : front.length + n + back.length = 8) :
    fill (front ++ [0] ++ back) (some (front.length + 1)) =
      some (front ++ List.replicate n 0 ++ back) := by
  obtain ⟨k, rfl⟩ : ∃ k, n = k + 1 := ⟨n - 1, by omega⟩
  have hmissing : 8 - (front ++ [0] ++ back).length = k := by
    simp only [List.length_append, List.length_singleton]
    omega
  have hplace : front.length + 1 = (front ++ [0]).length := by simp
  rw [fill, hmissing, hplace, List.take_left, List.drop_left, List.replicate_succ]
  simp

theorem mem_groupChars {groups : List Nat} {c : Char} (h : c ∈ groupChars groups) :
    c = ':' ∨ ∃ d < 16, c = d.digitChar := by
  rcases Form.mem_intercalate h with rfl | ⟨digits, hdigits, hc⟩
  · exact .inl rfl
  · obtain ⟨n, -, rfl⟩ := List.mem_map.1 hdigits
    exact .inr (digitChar_of_mem_toDigits (by decide) hc)

theorem ipv6?_digits {n : Nat} {rest : List Char} (hrest : rest ≠ []) :
    ipv6? (Nat.toDigits 16 n ++ rest) =
      groupsFrom ((Nat.toDigits 16 n ++ rest).length + 1) [] none (Nat.toDigits 16 n ++ rest) := by
  have hdigits := Nat.length_toDigits_pos (b := 16) (n := n)
  have hpos := List.length_pos_iff.2 hrest
  obtain ⟨c, cs, hcs, hc⟩ := digits_cons n rest
  have hlen := congrArg List.length hcs
  rw [List.length_append] at hlen
  rw [hcs, ipv6?, if_neg (by omega)]
  · exact fun more h => hc (List.cons.inj h).1
  · exact fun more h => hc (List.cons.inj h).1

/-- Groups without a run that is left out. -/
theorem ipv6?_groupChars {groups : List Nat} (h : Groups groups) :
    ipv6? (groupChars groups) = some groups := by
  obtain ⟨n, m, ns, rfl⟩ : ∃ n m ns, groups = n :: m :: ns := by
    match groups, h.length with
    | n :: m :: ns, _ => exact ⟨n, m, ns, rfl⟩
  have hread : groupsFrom ((groupChars (n :: m :: ns)).length + 1) [] none
      (groupChars (n :: m :: ns)) = fill ([] ++ n :: m :: ns) none :=
    groupsFrom_last h.small (by rw [h.length]; decide) (Nat.lt_succ_self _)
  rw [groupChars_cons] at hread ⊢
  rw [ipv6?_digits (by simp), hread, fill, List.nil_append, if_pos h.length]

/-- Groups with a run that is left out; the run may stand at an end. -/
theorem ipv6?_gap {front back : List Nat} {n : Nat} (hn : 0 < n)
    (h : Groups (front ++ List.replicate n 0 ++ back)) :
    ipv6? (groupChars front ++ ':' :: ':' :: groupChars back) =
      some (front ++ List.replicate n 0 ++ back) := by
  have hlen := h.length
  simp only [List.length_append, List.length_replicate] at hlen
  have hfront : ∀ m ∈ front, m < 0x10000 := fun m hm => h.small m (by simp [hm])
  have hback : ∀ m ∈ back, m < 0x10000 := fun m hm => h.small m (by simp [hm])
  have hfill := fill_gap front back hn hlen
  cases front with
  | nil =>
    rw [List.length_nil] at hlen
    rw [groupChars_nil, List.nil_append, ipv6?, if_neg (by simp),
      groupsFrom_last hback (by simp; omega) (Nat.lt_succ_self _)]
    exact hfill
  | cons m front =>
    have hread :
        groupsFrom ((groupChars (m :: front) ++ ':' :: ':' :: groupChars back).length + 1) [] none
          (groupChars (m :: front) ++ ':' :: ':' :: groupChars back) =
          fill ([] ++ m :: front ++ [0] ++ back) (some (0 + (m :: front).length + 1)) :=
      groupsFrom_gap (List.cons_ne_nil m front) hfront hback (by rw [List.length_nil]; omega)
        (Nat.lt_succ_self _)
    rw [Nat.zero_add, List.nil_append, hfill] at hread
    cases front with
    | nil =>
      rw [groupChars_singleton] at hread ⊢
      rw [ipv6?_digits (by simp)]
      exact hread
    | cons m' front =>
      rw [groupChars_cons, List.append_assoc] at hread ⊢
      rw [ipv6?_digits (by simp)]
      exact hread

/-- Eight groups are read as they are written. -/
theorem ipv6?_chars {groups : List Nat} (h : Groups groups) :
    ∃ inner, (Host.ipv6 groups).chars = '[' :: inner ++ [']'] ∧ ipv6? inner = some groups ∧
      ∀ c ∈ inner, c = ':' ∨ ∃ d < 16, c = d.digitChar := by
  rw [chars]
  refine ⟨_, rfl, ?_⟩
  cases hrun : longestRun groups with
  | none => exact ⟨ipv6?_groupChars h, fun c => mem_groupChars⟩
  | some run =>
    obtain ⟨i, n⟩ := run
    obtain ⟨hpos, hgroups⟩ := longestRun_spec hrun
    have hread := ipv6?_gap hpos (hgroups ▸ h)
    rw [← hgroups] at hread
    refine ⟨hread, fun c hc => ?_⟩
    simp only [List.mem_append, List.mem_cons] at hc
    rcases hc with hc | rfl | rfl | hc
    · exact mem_groupChars hc
    · exact .inl rfl
    · exact .inl rfl
    · exact mem_groupChars hc

end Intercept.Url.Host
