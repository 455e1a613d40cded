import Intercept.Text.Utf8
import Mathlib.Data.List.Basic

/-!
Bytes that a text is written in are read as this text.
-/

namespace Intercept.Text

namespace Utf8

theorem toNat_ofNat_of_lt {n : Nat} (h : n < 256) : (UInt8.ofNat n).toNat = n := by
  rw [UInt8.toNat_ofNat', Nat.mod_eq_of_lt h]

/-- A byte that continues a character. -/
theorem follow_cons (code n : Nat) {lo hi : UInt8} {b : Nat} (hb : b < 256) (hlo : lo.toNat ≤ b)
    (hhi : b ≤ hi.toNat) (bs : List UInt8) :
    follow code (n + 1) lo hi (UInt8.ofNat b :: bs) =
      follow (code * 64 + b % 64) n 0x80 0xBF bs := by
  have hb' := toNat_ofNat_of_lt hb
  rw [follow, if_pos ⟨UInt8.le_iff_toNat_le.2 (by omega), UInt8.le_iff_toNat_le.2 (by omega)⟩, hb']

/-- The last bytes are bounded by no more than that they continue a character. -/
theorem follow_plain (code n m : Nat) (bs : List UInt8) :
    follow code (n + 1) 0x80 0xBF (UInt8.ofNat (m % 64 + 0x80) :: bs) =
      follow (code * 64 + m % 64) n 0x80 0xBF bs := by
  rw [follow_cons _ _ (by omega) (by change 0x80 ≤ _; omega) (by change _ ≤ 0xBF; omega)]
  congr 2
  omega

theorem step_lead {b n : Nat} {lo hi : UInt8} (hb : 0x80 ≤ b) (hb' : b < 256)
    (hlead : lead (UInt8.ofNat b) = some (n, lo, hi)) (bs : List UInt8) :
    step (UInt8.ofNat b) bs = follow (leadBits (UInt8.ofNat b)) n lo hi bs := by
  have hnot : ¬UInt8.ofNat b < 0x80 := by
    rw [UInt8.lt_iff_toNat_lt, toNat_ofNat_of_lt hb']
    exact Nat.not_lt.2 hb
  rw [step, if_neg hnot, hlead]

/-- A first byte of two. -/
theorem step_two {b : Nat} (hb : 0xC2 ≤ b) (hb' : b ≤ 0xDF) (bs : List UInt8) :
    step (UInt8.ofNat b) bs = follow (b % 32) 1 0x80 0xBF bs := by
  have hall : ∀ k < 30, lead (UInt8.ofNat (0xC2 + k)) = some (1, 0x80, 0xBF) ∧
      leadBits (UInt8.ofNat (0xC2 + k)) = (0xC2 + k) % 32 := by decide
  obtain ⟨k, rfl⟩ := Nat.exists_eq_add_of_le hb
  obtain ⟨hlead, hbits⟩ := hall k (by omega)
  rw [step_lead (by omega) (by omega) hlead, hbits]

/-- A first byte of three; the second byte is bounded where other forms or no characters are. -/
theorem step_three {b : Nat} (hb : 0xE0 ≤ b) (hb' : b ≤ 0xEF) (bs : List UInt8) :
    step (UInt8.ofNat b) bs =
      follow (b % 16) 2 (if b = 0xE0 then 0xA0 else 0x80) (if b = 0xED then 0x9F else 0xBF) bs := by
  have hall : ∀ k < 16, lead (UInt8.ofNat (0xE0 + k)) =
        some (2, if 0xE0 + k = 0xE0 then 0xA0 else 0x80, if 0xE0 + k = 0xED then 0x9F else 0xBF) ∧
      leadBits (UInt8.ofNat (0xE0 + k)) = (0xE0 + k) % 16 := by decide
  obtain ⟨k, rfl⟩ := Nat.exists_eq_add_of_le hb
  obtain ⟨hlead, hbits⟩ := hall k (by omega)
  rw [step_lead (by omega) (by omega) hlead, hbits]

theorem step_four {b : Nat} (hb : 0xF0 ≤ b) (hb' : b ≤ 0xF4) (bs : List UInt8) :
    step (UInt8.ofNat b) bs =
      follow (b % 8) 3 (if b = 0xF0 then 0x90 else 0x80) (if b = 0xF4 then 0x8F else 0xBF) bs := by
  have hall : ∀ k < 5, lead (UInt8.ofNat (0xF0 + k)) =
        some (3, if 0xF0 + k = 0xF0 then 0x90 else 0x80, if 0xF0 + k = 0xF4 then 0x8F else 0xBF) ∧
      leadBits (UInt8.ofNat (0xF0 + k)) = (0xF0 + k) % 8 := by decide
  obtain ⟨k, rfl⟩ := Nat.exists_eq_add_of_le hb
  obtain ⟨hlead, hbits⟩ := hall k (by omega)
  rw [step_lead (by omega) (by omega) hlead, hbits]

/-- The bytes of a character are read as one. -/
theorem step_encode (c : Char) (bs : List UInt8) :
    ∃ b tail, String.utf8EncodeChar c = b :: tail ∧ step b (tail ++ bs) = .char c.toNat bs := by
  have hvalid : c.toNat < 0xD800 ∨ 0xDFFF < c.toNat ∧ c.toNat < 0x110000 := c.valid
  have hv : c.val.toNat = c.toNat := rfl
  simp only [String.utf8EncodeChar, hv]
  generalize c.toNat = v at hvalid
  split
  next h =>
    refine ⟨_, _, rfl, ?_⟩
    have hlt : UInt8.ofNat v < 0x80 := by
      rw [UInt8.lt_iff_toNat_lt, toNat_ofNat_of_lt (by omega)]
      exact Nat.lt_succ_of_le h
    rw [step, if_pos hlt, toNat_ofNat_of_lt (by omega)]
    rfl
  next h =>
    split
    next h2 =>
      refine ⟨_, _, rfl, ?_⟩
      rw [step_two (by omega) (by omega), List.singleton_append, follow_plain, follow]
      congr 1
      omega
    next h2 =>
      split
      next h3 =>
        refine ⟨_, _, rfl, ?_⟩
        simp only [List.cons_append, List.nil_append]
        rw [step_three (by omega) (by omega), follow_cons _ _ (by omega)
          (by split <;> simp; omega) (by split <;> (simp; omega)), follow_plain, follow]
        congr 1
        omega
      next h3 =>
        refine ⟨_, _, rfl, ?_⟩
        simp only [List.cons_append, List.nil_append]
        rw [step_four (by omega) (by omega), follow_cons _ _ (by omega)
          (by split <;> simp; omega) (by split <;> (simp; omega)), follow_plain, follow_plain,
          follow]
        congr 1
        omega

theorem readFrom_utf8 (cs : List Char) (fuel : Nat) (h : (utf8 cs).length ≤ fuel) :
    readFrom fuel (utf8 cs) = cs.map some := by
  induction cs generalizing fuel with
  | nil => cases fuel <;> rfl
  | cons c cs ih =>
    obtain ⟨b, tail, hc, hstep⟩ := step_encode c (utf8 cs)
    have hutf8 : utf8 (c :: cs) = b :: (tail ++ utf8 cs) := by
      rw [utf8, List.flatMap_cons, hc]
      rfl
    rw [hutf8] at h ⊢
    rw [List.length_cons, List.length_append] at h
    obtain ⟨fuel, rfl⟩ : ∃ f, fuel = f + 1 := ⟨fuel - 1, by omega⟩
    rw [readFrom, hstep, List.map_cons, ← ih fuel (by omega)]
    simp only [Char.ofNat_toNat]

end Utf8

/-- What is written is read back. -/
theorem ofUtf8?_utf8 (cs : List Char) : ofUtf8? (utf8 cs) = some cs := by
  rw [ofUtf8?, Utf8.read, Utf8.readFrom_utf8 cs _ (Nat.le_refl _)]
  induction cs with
  | nil => rfl
  | cons c cs ih => simp only [List.map_cons, List.mapM_cons, ih]; rfl

/-- What holds of all bytes is seen from their two digits. -/
theorem forall_byte {P : UInt8 → Prop} (h : ∀ i < 16, ∀ j < 16, P (UInt8.ofNat (i * 16 + j)))
    (b : UInt8) : P b := by
  have hb := b.toNat_lt
  have hsum : b.toNat / 16 * 16 + b.toNat % 16 = b.toNat := by omega
  have hdigits := h (b.toNat / 16) (by omega) (b.toNat % 16) (by omega)
  rwa [hsum, UInt8.ofNat_toNat] at hdigits

theorem ofUtf8_utf8 (cs : List Char) : ofUtf8 (utf8 cs) = cs := by
  rw [ofUtf8, Utf8.read, Utf8.readFrom_utf8 cs _ (Nat.le_refl _), List.map_map]
  exact List.map_id cs

/-- A character of ASCII is one byte. -/
theorem utf8_ascii {b : UInt8} (h : b.toNat < 0x80) (cs : List Char) :
    utf8 (Char.ofNat b.toNat :: cs) = b :: utf8 cs := by
  have hall : ∀ n < 0x80, String.utf8EncodeChar (Char.ofNat n) = [UInt8.ofNat n] := by decide
  rw [utf8, List.flatMap_cons, hall _ h, UInt8.ofNat_toNat]
  rfl

/-- Only a character of ASCII has a byte of ASCII. -/
theorem mem_utf8 {cs : List Char} {b : UInt8} (hb : b ∈ utf8 cs) (hlt : b.toNat < 0x80) :
    Char.ofNat b.toNat ∈ cs := by
  obtain ⟨c, hc, hb⟩ := List.mem_flatMap.1 hb
  have hv : c.val.toNat = c.toNat := rfl
  simp only [String.utf8EncodeChar, hv] at hb
  split at hb
  next h =>
    rw [List.mem_singleton] at hb
    rwa [hb, Utf8.toNat_ofNat_of_lt (by omega), Char.ofNat_toNat]
  next h =>
    exfalso
    generalize c.toNat = v at h hb
    split at hb
    · simp only [List.mem_cons, List.not_mem_nil, or_false] at hb
      rcases hb with rfl | rfl <;> rw [Utf8.toNat_ofNat_of_lt (by omega)] at hlt <;> omega
    · split at hb
      · simp only [List.mem_cons, List.not_mem_nil, or_false] at hb
        rcases hb with rfl | rfl | rfl <;> rw [Utf8.toNat_ofNat_of_lt (by omega)] at hlt <;> omega
      · simp only [List.mem_cons, List.not_mem_nil, or_false] at hb
        rcases hb with rfl | rfl | rfl | rfl <;> rw [Utf8.toNat_ofNat_of_lt (by omega)] at hlt <;>
          omega

end Intercept.Text
