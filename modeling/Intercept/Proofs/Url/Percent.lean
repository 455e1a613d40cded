import Intercept.Url.Percent
import Mathlib.Data.List.Basic

/-!
Percent signs and digits are admitted everywhere, so what is encoded has nothing left to encode, and
stays as it is where it is read again. Decoding looks at nothing but percent signs.
-/

namespace Intercept.Url

/-- A character that a part of an address holds as it is. -/
structure Admitted (refused : Char → Bool) (c : Char) : Prop where
  ascii : c.toNat < 128
  notRefused : refused c = false

structure AdmitsCodes (refused : Char → Bool) : Prop where
  percent : Admitted refused '%'
  digit : ∀ n < 16, Admitted refused (upperHex n)

theorem encodePart_of_admitted {refused : Char → Bool} {cs : List Char}
    (h : ∀ c ∈ cs, Admitted refused c) : encodePart refused cs = cs := by
  induction cs with
  | nil => rfl
  | cons c cs ih =>
    obtain ⟨hc, hcs⟩ := List.forall_mem_cons.1 h
    rw [encodePart, List.flatMap_cons, if_pos (by simp [hc.ascii, hc.notRefused])]
    exact congrArg (c :: ·) (ih hcs)

theorem encodePart_ne_nil {refused : Char → Bool} {cs : List Char} (h : cs ≠ []) :
    encodePart refused cs ≠ [] := by
  obtain ⟨c, cs, rfl⟩ := List.exists_cons_of_ne_nil h
  rw [encodePart, List.flatMap_cons]
  split
  · simp
  · have hutf8 : Text.utf8 [c] ≠ [] := by simp [Text.utf8]
    obtain ⟨b, bs, hbs⟩ := List.exists_cons_of_ne_nil hutf8
    simp [hbs, percentByte]

/-- What is in an encoded part stood in the part, or belongs to a code. -/
theorem mem_encodePart {refused : Char → Bool} {cs : List Char} {c : Char}
    (h : c ∈ encodePart refused cs) :
    (c ∈ cs ∧ Admitted refused c) ∨ c = '%' ∨ ∃ n < 16, c = upperHex n := by
  obtain ⟨d, hd, hc⟩ := List.mem_flatMap.1 h
  split at hc
  next hadmitted =>
    rw [List.mem_singleton] at hc
    subst hc
    simp only [Bool.and_eq_true, decide_eq_true_eq, Bool.not_eq_true'] at hadmitted
    exact .inl ⟨hd, hadmitted.1, hadmitted.2⟩
  next =>
    obtain ⟨b, -, hc⟩ := List.mem_flatMap.1 hc
    have hb := b.toNat_lt
    simp only [percentByte, List.mem_cons, List.not_mem_nil, or_false] at hc
    rcases hc with rfl | rfl | rfl
    · exact .inr (.inl rfl)
    · exact .inr (.inr ⟨_, by omega, rfl⟩)
    · exact .inr (.inr ⟨_, by omega, rfl⟩)

theorem admitted_of_mem_encodePart {refused : Char → Bool} (hcodes : AdmitsCodes refused)
    {cs : List Char} {c : Char} (h : c ∈ encodePart refused cs) : Admitted refused c := by
  rcases mem_encodePart h with ⟨-, hc⟩ | rfl | ⟨n, hn, rfl⟩
  · exact hc
  · exact hcodes.percent
  · exact hcodes.digit n hn

/-- A character is not made by encoding if it is in no code. -/
theorem notMem_encodePart {refused : Char → Bool} {cs : List Char} {c : Char} (hc : c ∉ cs)
    (hpercent : c ≠ '%') (hdigit : ∀ n < 16, c ≠ upperHex n) : c ∉ encodePart refused cs := by
  intro h
  rcases mem_encodePart h with ⟨hmem, -⟩ | he | ⟨n, hn, he⟩
  · exact hc hmem
  · exact hpercent he
  · exact hdigit n hn he

theorem admitsCodes_of_all {refused : Char → Bool}
    (h : ('%' :: (List.range 16).map upperHex).all (fun c => c.toNat < 128 && !refused c) = true) :
    AdmitsCodes refused := by
  have hc (c : Char) (hmem : c ∈ '%' :: (List.range 16).map upperHex) : Admitted refused c := by
    have := List.all_eq_true.1 h c hmem
    simp only [Bool.and_eq_true, decide_eq_true_eq, Bool.not_eq_true'] at this
    exact ⟨this.1, this.2⟩
  exact ⟨hc _ List.mem_cons_self, fun n hn =>
    hc _ (List.mem_cons_of_mem _ (List.mem_map_of_mem (List.mem_range.2 hn)))⟩

theorem admitsCodes_path : AdmitsCodes refusedInPath := admitsCodes_of_all (by decide)

theorem admitsCodes_user : AdmitsCodes refusedInUser := admitsCodes_of_all (by decide)

theorem admitsCodes_query : AdmitsCodes refusedInQuery := admitsCodes_of_all (by decide)

theorem admitsCodes_fragment : AdmitsCodes refusedInFragment := admitsCodes_of_all (by decide)

/-- Only a percent sign is more than itself. -/
theorem decodeBytes_cons {a : UInt8} (h : a ≠ 37) (bs : List UInt8) :
    decodeBytes (a :: bs) = a :: decodeBytes bs := by
  match bs with
  | [] => rfl
  | [_] => rfl
  | _ :: _ :: _ => rw [decodeBytes, if_neg h]

end Intercept.Url
