import Intercept.Text.Ranges
import Mathlib.Data.Nat.Bitwise
import Mathlib.Data.List.Basic

/-!
Sets of code points as bits of one number. The tables of the program are long, and a search in them
for each of their own entries is quadratic; what has to hold of all entries is checked on the bits,
where a union or a look is one operation.
-/

namespace Intercept.Text

theorem toNat_ofNat {n : Nat} (h : n.isValidChar) : (Char.ofNat n).toNat = n := by
  rw [Char.ofNat, dif_pos h]
  rfl

/-- The bits of a run, given by its first one and its length. -/
def spanMask (first length : Nat) : Nat := (2 ^ length - 1) <<< first

theorem testBit_spanMask (first length n : Nat) :
    (spanMask first length).testBit n = (decide (first ≤ n) && decide (n < first + length)) := by
  rw [spanMask, Nat.testBit_shiftLeft, Nat.testBit_two_pow_sub_one, Bool.eq_iff_iff]
  simp only [ge_iff_le, Bool.and_eq_true, decide_eq_true_eq]
  omega

def runMask (first last : Nat) : Nat := spanMask first (last + 1 - first)

theorem testBit_runMask (first last n : Nat) :
    (runMask first last).testBit n = (decide (first ≤ n) && decide (n ≤ last)) := by
  rw [runMask, testBit_spanMask, Bool.eq_iff_iff]
  simp only [Bool.and_eq_true, decide_eq_true_eq]
  omega

theorem testBit_false_of_run {m : Nat} (first last : Nat) {n : Nat}
    (h : m &&& runMask first last = 0) (hfirst : first ≤ n) (hlast : n ≤ last) :
    m.testBit n = false := by
  have hn := congrArg (·.testBit n) h
  simpa [testBit_runMask, hfirst, hlast] using hn

def unionMask {α : Type} (mask : α → Nat) (table : List α) : Nat :=
  table.foldr (fun x m => mask x ||| m) 0

theorem testBit_unionMask {α : Type} (mask : α → Nat) (table : List α) (n : Nat) :
    (unionMask mask table).testBit n = table.any fun x => (mask x).testBit n := by
  induction table with
  | nil => simp [unionMask]
  | cons x rest ih =>
    rw [List.any_cons, ← ih, ← Nat.testBit_or]
    rfl

def Ranges.mask (ranges : Ranges) : Nat := unionMask (fun r => runMask r.1 r.2) ranges

theorem Ranges.testBit_mask (ranges : Ranges) (n : Nat) :
    ranges.mask.testBit n = ranges.any fun r => decide (r.1 ≤ n) && decide (n ≤ r.2) := by
  simp only [mask, testBit_unionMask, testBit_runMask]

theorem Ranges.has_eq (ranges : Ranges) (c : Char) :
    ranges.has c = ranges.mask.testBit c.toNat :=
  (ranges.testBit_mask c.toNat).symm

def pointMask (points : List Nat) : Nat := unionMask (2 ^ ·) points

theorem testBit_pointMask (points : List Nat) (n : Nat) :
    (pointMask points).testBit n = decide (n ∈ points) := by
  rw [pointMask, testBit_unionMask, Bool.eq_iff_iff]
  simp [Nat.testBit_two_pow]

theorem mem_of_testBit {points : List Nat} {n : Nat} (h : (pointMask points).testBit n = true) :
    n ∈ points := by
  simpa [testBit_pointMask] using h

theorem testBit_of_mem {points : List Nat} {n : Nat} (h : n ∈ points) :
    (pointMask points).testBit n = true := by
  simpa [testBit_pointMask] using h

/-- No point of one set is in the other. -/
theorem testBit_false_of_and_eq_zero {a b n : Nat} (h : a &&& b = 0) (ha : a.testBit n = true) :
    b.testBit n = false := by
  have hn := congrArg (·.testBit n) h
  simpa [ha] using hn

def areNew : List Nat → Nat → Bool
  | [], _ => true
  | n :: rest, seen => !seen.testBit n && areNew rest (seen ||| 2 ^ n)

theorem areNew_spec {points : List Nat} {seen : Nat} (h : areNew points seen = true) :
    points.Nodup ∧ ∀ n ∈ points, seen.testBit n = false := by
  induction points generalizing seen with
  | nil => simp
  | cons p rest ih =>
    simp only [areNew, Bool.and_eq_true, Bool.not_eq_true'] at h
    obtain ⟨hnodup, hseen⟩ := ih h.2
    have hapart (n : Nat) (hn : n ∈ rest) : seen.testBit n = false ∧ p ≠ n := by
      simpa [Nat.testBit_or, Nat.testBit_two_pow] using hseen n hn
    refine ⟨List.nodup_cons.2 ⟨fun hp => (hapart p hp).2 rfl, hnodup⟩, ?_⟩
    rintro n (_ | ⟨_, hn⟩)
    · exact h.1
    · exact (hapart n hn).1

end Intercept.Text
