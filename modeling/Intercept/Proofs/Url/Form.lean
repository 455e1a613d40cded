import Intercept.Url.Form
import Mathlib.Data.List.Basic

/-!
Texts in parts: what is joined with a separator comes apart again, and the parts of a text hold no
separator.
-/

namespace Intercept.Url.Form

variable {separator : Char}

theorem split_ne_nil (cs : List Char) : split separator cs ≠ [] := by
  cases cs with
  | nil => simp [split]
  | cons c cs =>
    rw [split]
    split
    · simp
    · split <;> simp

theorem split_separator (cs : List Char) :
    split separator (separator :: cs) = [] :: split separator cs := by
  rw [split]
  split
  next h => exact absurd h (split_ne_nil cs)
  next h => rw [if_pos rfl, h]

theorem split_other {c : Char} (hc : c ≠ separator) {cs p : List Char} {ps : List (List Char)}
    (h : split separator cs = p :: ps) : split separator (c :: cs) = (c :: p) :: ps := by
  rw [split, h]
  exact if_neg hc

theorem split_of_notMem {cs : List Char} (h : separator ∉ cs) : split separator cs = [cs] := by
  induction cs with
  | nil => rfl
  | cons c cs ih =>
    rw [List.mem_cons, not_or] at h
    exact split_other (Ne.symm h.1) (ih h.2)

theorem split_append {front : List Char} (h : separator ∉ front) (back : List Char) :
    split separator (front ++ separator :: back) = front :: split separator back := by
  induction front with
  | nil => exact split_separator back
  | cons c front ih =>
    rw [List.mem_cons, not_or] at h
    exact split_other (Ne.symm h.1) (ih h.2)

theorem intercalate_cons_cons (p q : List Char) (parts : List (List Char)) :
    List.intercalate [separator] (p :: q :: parts) =
      p ++ separator :: List.intercalate [separator] (q :: parts) := by
  simp [List.intercalate, List.intersperse]

theorem split_intercalate {parts : List (List Char)} (hne : parts ≠ [])
    (h : ∀ p ∈ parts, separator ∉ p) :
    split separator (List.intercalate [separator] parts) = parts := by
  induction parts with
  | nil => exact absurd rfl hne
  | cons p parts ih =>
    obtain ⟨hp, hparts⟩ := List.forall_mem_cons.1 h
    cases parts with
    | nil => simpa using split_of_notMem hp
    | cons q parts =>
      rw [intercalate_cons_cons, split_append hp, ih (by simp) hparts]

theorem mem_intercalate {parts : List (List Char)} {c : Char}
    (h : c ∈ List.intercalate [separator] parts) : c = separator ∨ ∃ p ∈ parts, c ∈ p := by
  induction parts with
  | nil => cases h
  | cons p parts ih =>
    cases parts with
    | nil => exact .inr ⟨p, by simpa using h⟩
    | cons q parts =>
      rw [intercalate_cons_cons, List.mem_append, List.mem_cons] at h
      rcases h with h | h | h
      · exact .inr ⟨p, List.mem_cons_self, h⟩
      · exact .inl h
      · exact (ih h).imp id fun ⟨r, hr, hc⟩ => ⟨r, List.mem_cons_of_mem _ hr, hc⟩

/-- What holds of a text's ends and passes on to what is in front of a separator and behind it holds
of each part. -/
theorem split_all {P : List Char → Prop}
    (hP : ∀ front back, separator ∉ front → P (front ++ separator :: back) → P front ∧ P back)
    {cs : List Char} (hcs : P cs) : ∀ p ∈ split separator cs, P p ∧ separator ∉ p := by
  induction hn : cs.length using Nat.strongRecOn generalizing cs with
  | _ n ih =>
    by_cases hmem : separator ∈ cs
    · obtain ⟨front, back, rfl, hfront⟩ := List.eq_append_cons_of_mem hmem
      obtain ⟨hf, hb⟩ := hP front back hfront hcs
      rw [split_append hfront, List.forall_mem_cons]
      refine ⟨⟨hf, hfront⟩, ih _ ?_ hb rfl⟩
      rw [← hn, List.length_append, List.length_cons]
      omega
    · rw [split_of_notMem hmem]
      simpa using ⟨hcs, hmem⟩

end Intercept.Url.Form
