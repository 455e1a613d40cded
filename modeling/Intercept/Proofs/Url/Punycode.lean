import Intercept.Proofs.Text.CodePoints
import Intercept.Url.Punycode
import Mathlib.Data.List.Sort
import Mathlib.Tactic.Ring

/-!
What is coded is read back. The writer counts how many places it went on since the last character
that it wrote; the reader adds this number to where it stands. Both count the same thing: code
points times the places of a text of that length, and the place in the text.
-/

namespace Intercept.Url.Punycode

open Text (toNat_ofNat)

/-! ### Numbers -/

theorem threshold_bounds (place bias : Nat) :
    1 ≤ threshold place bias ∧ threshold place bias ≤ 26 := by
  unfold threshold
  omega

theorem digit?_digit {n : Nat} (h : n < 36) : digit? (digit n) = some n := by
  have hall : ∀ m < 36, digit? (digit m) = some m := by decide
  exact hall n h

theorem readNumber_cons {bias place weight sum d : Nat} (hd : d < 36) (cs : List Char) :
    readNumber bias place weight sum (digit d :: cs) =
      if d < threshold place bias then some (sum + d * weight, cs)
      else readNumber bias (place + 36) (weight * (36 - threshold place bias))
        (sum + d * weight) cs := by
  rw [readNumber, digit?_digit hd]

theorem readNumber_numberFrom (bias n : Nat) : ∀ (place weight sum : Nat) (rest : List Char),
    readNumber bias place weight sum (numberFrom bias place n ++ rest) =
      some (sum + n * weight, rest) := by
  induction n using Nat.strongRecOn with
  | _ n ih =>
    intro place weight sum rest
    obtain ⟨ht, ht'⟩ := threshold_bounds place bias
    rw [numberFrom]
    split
    next hlt =>
      rw [List.singleton_append, readNumber_cons (by omega), if_pos hlt]
    next hge =>
      rw [List.cons_append]
      set t := threshold place bias
      have hmod : (n - t) % (36 - t) < 36 - t := Nat.mod_lt _ (by omega)
      have hdiv : (n - t) / (36 - t) < n := by
        have := Nat.div_le_self (n - t) (36 - t)
        omega
      have hsum : t + (n - t) % (36 - t) + (n - t) / (36 - t) * (36 - t) = n := by
        have := Nat.mod_add_div' (n - t) (36 - t)
        omega
      rw [readNumber_cons (by omega), if_neg (by omega), ih _ hdiv]
      congr 2
      calc sum + (t + (n - t) % (36 - t)) * weight +
            (n - t) / (36 - t) * (weight * (36 - t))
          = sum + (t + (n - t) % (36 - t) + (n - t) / (36 - t) * (36 - t)) * weight := by ring
        _ = sum + n * weight := by rw [hsum]

/-! ### Digits -/

def IsDigit (c : Char) : Prop := ∃ n < 36, c = digit n

theorem isDigit_of_mem_numberFrom (bias n : Nat) :
    ∀ place, ∀ c ∈ numberFrom bias place n, IsDigit c := by
  induction n using Nat.strongRecOn with
  | _ n ih =>
    intro place c hc
    obtain ⟨ht, ht'⟩ := threshold_bounds place bias
    rw [numberFrom] at hc
    split at hc
    next hlt =>
      rw [List.mem_singleton] at hc
      exact ⟨n, by omega, hc⟩
    next hge =>
      have hmod : (n - threshold place bias) % (36 - threshold place bias) <
          36 - threshold place bias := Nat.mod_lt _ (by omega)
      have hdiv : (n - threshold place bias) / (36 - threshold place bias) < n := by
        have := Nat.div_le_self (n - threshold place bias) (36 - threshold place bias)
        omega
      rcases List.mem_cons.1 hc with rfl | hc
      · exact ⟨_, by omega, rfl⟩
      · exact ih _ hdiv _ c hc

theorem numberFrom_ne_nil (bias place n : Nat) : numberFrom bias place n ≠ [] := by
  rw [numberFrom]
  split <;> simp

/-- Small letters and digits. -/
theorem IsDigit.plain {c : Char} (h : IsDigit c) : c.isAlphanum = true ∧ c.isUpper = false := by
  obtain ⟨n, hn, rfl⟩ := h
  have hall : ∀ m < 36, (digit m).isAlphanum = true ∧ (digit m).isUpper = false := by decide
  exact hall n hn

theorem IsDigit.ne {c d : Char} (h : IsDigit c) (hd : d.isAlphanum = false) : c ≠ d := by
  rintro rfl
  simp [h.plain.1] at hd

/-! ### The writer and the reader -/

/-- The reader follows the writer: behind what is written so far it stands at `point` and `start`
with the characters `cur`, and has enough fuel for what follows. -/
structure Follows (basic : List Char) (w : Writer) (point start : Nat) (cur : List Char) :
    Prop where
  count : w.count = cur.length
  le : basic.length ≤ w.count
  first : w.count = basic.length ↔ start = 0
  reads : ∀ (rest : List Char) (fuel : Nat), (w.out ++ rest).length ≤ fuel →
    ∃ left, rest.length ≤ left ∧
      readFrom fuel 72 128 0 basic (w.out ++ rest) = readFrom left w.bias point start cur rest

theorem Follows.begin (basic : List Char) : Follows basic ⟨[], 0, 72, basic.length⟩ 128 0 basic :=
  ⟨rfl, le_rfl, by simp, fun _ fuel h => ⟨fuel, h, rfl⟩⟩

/-- The writer's count is the reader's: code points times places, and a place. -/
theorem place_unique {point count n wanted place : Nat} (hplace : place < count)
    (h : point * count + n = wanted * count + place) :
    point + n / count = wanted ∧ n % count = place := by
  have hle : point ≤ wanted := by
    by_contra hlt
    have : (wanted + 1) * count ≤ point * count := Nat.mul_le_mul_right _ (by omega)
    rw [Nat.add_mul] at this
    omega
  obtain ⟨k, rfl⟩ := Nat.exists_eq_add_of_le hle
  have hn : n = place + k * count := by
    rw [Nat.add_mul] at h
    omega
  rw [hn, Nat.add_mul_div_right _ _ (by omega), Nat.add_mul_mod_self_right,
    Nat.div_eq_of_lt hplace, Nat.mod_eq_of_lt hplace]
  omega

theorem insertIdx_between (front back : List Char) (c : Char) :
    (front ++ back).insertIdx front.length c = front ++ c :: back := by
  induction front with
  | nil => rfl
  | cons d front ih => rw [List.cons_append, List.length_cons, List.insertIdx_succ_cons, ih]; rfl

theorem readFrom_put {fuel bias point start n : Nat} {front back digits rest : List Char} {c : Char}
    (hdigits : digits ≠ []) (hread : readNumber bias 36 1 start (digits ++ rest) = some (n, rest))
    (hplace : point * ((front ++ back).length + 1) + n =
      c.toNat * ((front ++ back).length + 1) + front.length) :
    readFrom (fuel + 1) bias point start (front ++ back) (digits ++ rest) =
      readFrom fuel (adapt (n - start) ((front ++ back).length + 1) (start == 0)) c.toNat
        (front.length + 1) (front ++ c :: back) rest := by
  obtain ⟨d, ds, rfl⟩ := List.exists_cons_of_ne_nil hdigits
  have hlt : front.length < (front ++ back).length + 1 := by
    rw [List.length_append]
    omega
  obtain ⟨hpoint, hmod⟩ := place_unique hlt hplace
  rw [List.cons_append] at hread ⊢
  rw [readFrom, hread]
  simp only [hpoint, hmod, insertIdx_between, Char.ofNat_toNat]
  exact if_pos c.valid

/-- One character is written and read. -/
theorem Follows.put {basic : List Char} {w : Writer} {point start : Nat} {front back : List Char}
    {c : Char} (h : Follows basic w point start (front ++ back))
    (hplace : point * (w.count + 1) + start + w.delta = c.toNat * (w.count + 1) + front.length) :
    Follows basic ⟨w.out ++ numberFrom w.bias 36 w.delta, 0,
      adapt w.delta (w.count + 1) (w.count == basic.length), w.count + 1⟩ c.toNat
      (front.length + 1) (front ++ c :: back) := by
  have hcount := h.count
  have hle := h.le
  refine ⟨?_, by simp only; omega, by simp only; omega, fun rest fuel hfuel => ?_⟩
  · simp only [hcount, List.length_append, List.length_cons]
    omega
  · rw [List.append_assoc] at hfuel ⊢
    obtain ⟨left, hleft, hread⟩ := h.reads _ fuel hfuel
    have hne := numberFrom_ne_nil w.bias 36 w.delta
    have hpos := List.length_pos_of_ne_nil hne
    rw [List.length_append] at hleft
    obtain ⟨left, rfl⟩ : ∃ l, left = l + 1 := ⟨left - 1, by omega⟩
    refine ⟨left, by omega, ?_⟩
    rw [hread, readFrom_put (c := c) hne (readNumber_numberFrom w.bias w.delta 36 1 start rest)
      (by rw [← hcount]; omega), ← hcount]
    have hfirst : (start == 0) = (w.count == basic.length) := by
      rw [Bool.eq_iff_iff, beq_iff_eq, beq_iff_eq, h.first]
    rw [hfirst, show start + w.delta * 1 - start = w.delta by omega]

/-- A pass for `wanted` stands between two parts of the label. -/
def Passing (basic : List Char) (wanted : Nat) (w : Writer) (front back : List Char) : Prop :=
  ∃ point start, Follows basic w point start
      (front.filter (·.toNat ≤ wanted) ++ back.filter (·.toNat < wanted)) ∧
    point * (w.count + 1) + start + w.delta =
      wanted * (w.count + 1) + (front.filter (·.toNat ≤ wanted)).length

theorem Passing.step {basic front back : List Char} {wanted : Nat} {w : Writer} {c : Char}
    (h : Passing basic wanted w front (c :: back)) :
    Passing basic wanted (writeAt basic.length wanted w c) (front ++ [c]) back := by
  obtain ⟨point, start, hfollows, hplace⟩ := h
  rw [writeAt]
  rcases Nat.lt_trichotomy c.toNat wanted with hlt | rfl | hgt
  · rw [if_pos hlt]
    refine ⟨point, start, ?_, ?_⟩
    · simpa [hlt, hlt.le] using (⟨hfollows.count, hfollows.le, hfollows.first, hfollows.reads⟩ :
        Follows basic { w with delta := w.delta + 1 } point start _)
    · simp [hlt.le]
      omega
  · rw [if_neg (Nat.lt_irrefl _), if_pos rfl]
    have hput := hfollows.put hplace
    refine ⟨c.toNat, (front.filter (·.toNat ≤ c.toNat)).length + 1, ?_, ?_⟩
    · simpa using hput
    · simp
  · rw [if_neg (by omega), if_neg (by omega)]
    refine ⟨point, start, ?_, ?_⟩
    · simpa [Nat.not_le.2 hgt, Nat.not_lt.2 hgt.le] using hfollows
    · simpa [Nat.not_le.2 hgt] using hplace

theorem Passing.pass {basic : List Char} {wanted : Nat} (back : List Char) {front : List Char}
    {w : Writer} (h : Passing basic wanted w front back) :
    Passing basic wanted (back.foldl (writeAt basic.length wanted) w) (front ++ back) [] := by
  induction back generalizing front w with
  | nil => simpa using h
  | cons c back ih => simpa using ih h.step

/-- Everything below `reached` is written. -/
def Reached (label basic : List Char) (reached : Nat) (w : Writer) : Prop :=
  ∃ point start, Follows basic w point start (label.filter (·.toNat < reached)) ∧
    point * (w.count + 1) + start + w.delta = reached * (w.count + 1)

theorem Reached.pass {label basic : List Char} {reached wanted : Nat} {w : Writer}
    (h : Reached label basic reached w) (hle : reached ≤ wanted)
    (hnone : ∀ c ∈ label, reached ≤ c.toNat → wanted ≤ c.toNat) :
    Passing basic wanted (label.foldl (writeAt basic.length wanted)
      { w with delta := w.delta + (wanted - reached) * (w.count + 1) }) label [] := by
  obtain ⟨point, start, hfollows, hplace⟩ := h
  have hsame : label.filter (·.toNat < reached) = label.filter (·.toNat < wanted) :=
    List.filter_congr fun c hc => by
      have := hnone c hc
      simp only [decide_eq_decide]
      omega
  have hpass : Passing basic wanted
      { w with delta := w.delta + (wanted - reached) * (w.count + 1) } [] label := by
    refine ⟨point, start, ?_, ?_⟩
    · rw [List.filter_nil, List.nil_append, ← hsame]
      exact ⟨hfollows.count, hfollows.le, hfollows.first, hfollows.reads⟩
    · obtain ⟨k, rfl⟩ := Nat.exists_eq_add_of_le hle
      simp only [List.filter_nil, List.length_nil, Nat.add_zero, Nat.add_sub_cancel_left,
        Nat.add_mul reached k]
      omega
  exact hpass.pass label

theorem Reached.next {label basic : List Char} {wanted : Nat} {w : Writer}
    (h : Passing basic wanted w label []) :
    Reached label basic (wanted + 1) { w with delta := w.delta + 1 } := by
  obtain ⟨point, start, hfollows, hplace⟩ := h
  rw [List.filter_nil, List.append_nil] at hfollows
  have hcount := hfollows.count
  refine ⟨point, start, ?_, ?_⟩
  · simp only [Nat.lt_succ_iff]
    exact ⟨hfollows.count, hfollows.le, hfollows.first, hfollows.reads⟩
  · rw [Nat.add_mul]
    simp only
    omega

theorem Reached.writeFrom {label basic : List Char} (more : List Nat) {reached : Nat} {w : Writer}
    (h : Reached label basic reached w) (hsorted : (reached :: more).Pairwise (· ≤ ·))
    (hnew : more.Nodup) (hall : ∀ c ∈ label, reached ≤ c.toNat → c.toNat ∈ more) :
    ∃ point start,
      Follows basic (writeFrom label basic.length more reached w) point start label := by
  induction more generalizing reached w with
  | nil =>
    obtain ⟨point, start, hfollows, -⟩ := h
    refine ⟨point, start, ?_⟩
    rw [Punycode.writeFrom]
    rwa [List.filter_eq_self.2 fun c hc => by
      have := hall c hc
      simp only [List.not_mem_nil, imp_false] at this
      simpa using this] at hfollows
  | cons wanted more ih =>
    obtain ⟨hfirst, hsorted⟩ := List.pairwise_cons.1 hsorted
    obtain ⟨hwanted, hmore⟩ := List.pairwise_cons.1 hsorted
    obtain ⟨hnotMem, hnew⟩ := List.nodup_cons.1 hnew
    have hlt (n : Nat) (hn : n ∈ more) : wanted < n :=
      Nat.lt_of_le_of_ne (hwanted n hn) fun he => hnotMem (he ▸ hn)
    have hnone (c : Char) (hc : c ∈ label) (hle : reached ≤ c.toNat) : wanted ≤ c.toNat := by
      rcases List.mem_cons.1 (hall c hc hle) with he | hn
      · exact he.ge
      · exact hwanted _ hn
    have hpass := h.pass (hfirst wanted List.mem_cons_self) hnone
    refine ih (Reached.next hpass) (List.pairwise_cons.2 ⟨hlt, hmore⟩) hnew fun c hc hle => ?_
    have hle' := hfirst wanted List.mem_cons_self
    rcases List.mem_cons.1 (hall c hc (by omega)) with he | hn
    · omega
    · exact hn

/-! ### The code points of a label -/

theorem eraseDups_loop (points seen : List Nat) (hseen : (seen.reverse ++ points).Pairwise (· ≤ ·))
    (hnew : seen.Nodup) :
    (List.eraseDupsBy.loop (· == ·) points seen).Pairwise (· ≤ ·) ∧
      (List.eraseDupsBy.loop (· == ·) points seen).Nodup ∧
      ∀ n, n ∈ List.eraseDupsBy.loop (· == ·) points seen ↔ n ∈ seen ∨ n ∈ points := by
  induction points generalizing seen with
  | nil =>
    rw [List.append_nil] at hseen
    exact ⟨hseen, List.nodup_reverse.2 hnew, by simp [List.eraseDupsBy.loop]⟩
  | cons p points ih =>
    rw [List.eraseDupsBy.loop]
    split
    next hany =>
      have hp : p ∈ seen := by simpa using hany
      obtain ⟨hsorted, hnodup, hmem⟩ := ih seen
        (hseen.sublist ((List.sublist_cons_self p points).append_left _)) hnew
      refine ⟨hsorted, hnodup, fun n => ?_⟩
      rw [hmem, List.mem_cons]
      refine or_congr_right' fun hn => ?_
      have hne : n ≠ p := fun he => hn (he ▸ hp)
      simp [hne]
    next hany =>
      have hp : p ∉ seen := fun h => by simpa using List.any_eq_false.1 hany p h
      obtain ⟨hsorted, hnodup, hmem⟩ := ih (p :: seen) (by simpa using hseen)
        (List.nodup_cons.2 ⟨hp, hnew⟩)
      refine ⟨hsorted, hnodup, fun n => ?_⟩
      rw [hmem, List.mem_cons, List.mem_cons]
      tauto

theorem beyond_spec (label : List Char) :
    (beyond label).Pairwise (· ≤ ·) ∧ (beyond label).Nodup ∧
      ∀ n, n ∈ beyond label ↔ 128 ≤ n ∧ n ∈ label.map Char.toNat := by
  have hsorted : ((label.map Char.toNat).filter (128 ≤ ·)).mergeSort.Pairwise fun a b =>
      decide (a ≤ b) = true :=
    List.pairwise_mergeSort (by simpa using fun a b c => Nat.le_trans)
      (by simpa using Nat.le_total) _
  obtain ⟨hle, hnew, hmem⟩ := eraseDups_loop _ [] (by simpa using hsorted) .nil
  refine ⟨hle, hnew, fun n => ?_⟩
  rw [beyond, List.eraseDups, List.eraseDupsBy, hmem, List.mem_mergeSort, List.mem_filter]
  simp [and_comm]

/-! ### Codes -/

def basic (label : List Char) : List Char := label.filter (·.toNat < 128)

def numbers (label : List Char) : List Char :=
  (writeFrom label (basic label).length (beyond label) 128
    ⟨[], 0, 72, (basic label).length⟩).out

theorem encode_eq (label : List Char) :
    encode label =
      basic label ++ ((if (basic label).isEmpty then [] else ['-']) ++ numbers label) := by
  rw [encode, List.append_assoc]
  rfl

theorem follows_numbers (label : List Char) :
    ∃ w point start, w.out = numbers label ∧ Follows (basic label) w point start label := by
  obtain ⟨hsorted, hnew, hmem⟩ := beyond_spec label
  have h : Reached label (basic label) 128 ⟨[], 0, 72, (basic label).length⟩ :=
    ⟨128, 0, Follows.begin _, by simp⟩
  obtain ⟨point, start, hfollows⟩ := h.writeFrom (beyond label)
    (List.pairwise_cons.2 ⟨fun n hn => ((hmem n).1 hn).1, hsorted⟩) hnew
    fun c hc hle => (hmem _).2 ⟨hle, List.mem_map_of_mem hc⟩
  exact ⟨_, point, start, rfl, hfollows⟩

theorem isDigit_of_mem_writeFrom (label : List Char) (count : Nat) (points : List Nat) :
    ∀ (reached : Nat) (w : Writer), (∀ c ∈ w.out, IsDigit c) →
      ∀ c ∈ (writeFrom label count points reached w).out, IsDigit c := by
  have hpass (wanted : Nat) (cs : List Char) : ∀ w : Writer, (∀ c ∈ w.out, IsDigit c) →
      ∀ c ∈ (cs.foldl (writeAt count wanted) w).out, IsDigit c := by
    induction cs with
    | nil => exact fun w hw => hw
    | cons d cs ih =>
      intro w hw
      refine ih _ ?_
      rw [writeAt]
      split
      · exact hw
      · split
        · intro c hc
          rcases List.mem_append.1 hc with hc | hc
          · exact hw c hc
          · exact isDigit_of_mem_numberFrom _ _ _ c hc
        · exact hw
  induction points with
  | nil => exact fun _ w hw => hw
  | cons wanted more ih => exact fun _ w hw => ih _ _ (hpass wanted label _ hw)

theorem isDigit_of_mem_numbers {label : List Char} {c : Char} (h : c ∈ numbers label) : IsDigit c :=
  isDigit_of_mem_writeFrom label _ _ _ _ (by simp) c h

/-- A code is taken apart at its last hyphen. -/
theorem takeWhile_numbers {front out : List Char} (hout : ∀ c ∈ out, IsDigit c)
    (hfront : front = [] ∨ ∃ cs, front = cs ++ ['-']) :
    ((front ++ out).reverse.takeWhile (· ≠ '-')).reverse = out := by
  have hall : ∀ c ∈ out.reverse, decide (c ≠ '-') = true := fun c hc => by
    simpa using (hout c (List.mem_reverse.1 hc)).ne (d := '-') (by decide)
  rw [List.reverse_append, List.takeWhile_append_of_pos hall]
  rcases hfront with rfl | ⟨cs, rfl⟩ <;> simp

/-- What is coded is read back. -/
theorem decode_encode (label : List Char) : decode (encode label) = some label := by
  obtain ⟨w, point, start, hout, hfollows⟩ := follows_numbers label
  have hread (fuel : Nat) (hfuel : (numbers label).length ≤ fuel) :
      readFrom fuel 72 128 0 (basic label) (numbers label) = some label := by
    obtain ⟨left, -, h⟩ := hfollows.reads [] fuel (by simpa [hout] using hfuel)
    rw [List.append_nil, hout] at h
    rw [h]
    cases left <;> rfl
  have hdigits : ∀ c ∈ numbers label, IsDigit c := fun c => isDigit_of_mem_numbers
  rw [encode_eq, ← List.append_assoc, decode]
  by_cases hb : basic label = []
  · rw [hb] at hread
    rw [hb, List.isEmpty_nil, if_pos rfl, List.append_nil, takeWhile_numbers hdigits (.inl rfl)]
    simpa using hread _ le_rfl
  · rw [if_neg (by rwa [List.isEmpty_iff]), takeWhile_numbers hdigits (.inr ⟨_, rfl⟩)]
    rw [List.length_append, Nat.add_sub_cancel, List.take_left, List.dropLast_concat]
    exact hread _ (by omega)

end Intercept.Url.Punycode
