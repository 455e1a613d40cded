import Intercept.Base64
import Intercept.Proofs.Json.Scalars

/-!
Payloads are read as they were written, whatever their length leaves for the last group.
-/

namespace Intercept.Base64

def code (n : Nat) : UInt8 := UInt8.ofNat (letter n).toNat

theorem utf8_letter : ∀ n < 64, String.utf8EncodeChar (letter n) = [code n] := by decide

theorem sextet?_code : ∀ n < 64, sextet? (code n) = some n := by decide

theorem code_ne_pad : ∀ n < 64, code n ≠ pad := by decide

theorem utf8_cons {n : Nat} (hn : n < 64) (cs : List Char) :
    Text.utf8 (letter n :: cs) = code n :: Text.utf8 cs := by
  rw [Text.utf8, List.flatMap_cons, utf8_letter n hn]
  rfl

theorem sextet_code (start : Nat) {n : Nat} (hn : n < 64) : sextet start (code n) = .ok n := by
  rw [sextet, sextet?_code n hn]

/-! The bits of a group -/

theorem octets_one (a : UInt8) : octets [a.toNat / 4, a.toNat % 4 * 16] = [a] := by
  have ha : a.toNat / 4 * 4 + a.toNat % 4 * 16 / 16 = a.toNat := by omega
  rw [octets, ha, UInt8.ofNat_toNat]

theorem octets_two (a b : UInt8) :
    octets [a.toNat / 4, a.toNat % 4 * 16 + b.toNat / 16, b.toNat % 16 * 4] = [a, b] := by
  have hb := b.toNat_lt
  have h₁ : a.toNat / 4 * 4 + (a.toNat % 4 * 16 + b.toNat / 16) / 16 = a.toNat := by omega
  have h₂ : (a.toNat % 4 * 16 + b.toNat / 16) % 16 * 16 + b.toNat % 16 * 4 / 4 = b.toNat := by
    omega
  rw [octets, h₁, h₂, UInt8.ofNat_toNat, UInt8.ofNat_toNat]

theorem octets_three (a b c : UInt8) :
    octets [a.toNat / 4, a.toNat % 4 * 16 + b.toNat / 16, b.toNat % 16 * 4 + c.toNat / 64,
      c.toNat % 64] = [a, b, c] := by
  have hb := b.toNat_lt
  have hc := c.toNat_lt
  have h₁ : a.toNat / 4 * 4 + (a.toNat % 4 * 16 + b.toNat / 16) / 16 = a.toNat := by omega
  have h₂ : (a.toNat % 4 * 16 + b.toNat / 16) % 16 * 16 + (b.toNat % 16 * 4 + c.toNat / 64) / 4 =
      b.toNat := by omega
  have h₃ : (b.toNat % 16 * 4 + c.toNat / 64) % 4 * 64 + c.toNat % 64 = c.toNat := by omega
  rw [octets, h₁, h₂, h₃, UInt8.ofNat_toNat, UInt8.ofNat_toNat, UInt8.ofNat_toNat]

/-! Groups -/

/-- Letters are collected while no '=' has come. -/
theorem tail_codes (start : Nat) {ns : List Nat} (hn : ∀ n ∈ ns, n < 64) {t : Tail}
    (ht : t.pads = 0) (bs : List UInt8) :
    ∃ last, tail start t (ns.map code ++ bs) =
      tail start { t with sextets := t.sextets ++ ns, last := last } bs := by
  induction ns generalizing t with
  | nil => exact ⟨t.last, by rw [List.append_nil]; rfl⟩
  | cons n ns ih =>
    have hlt : n < 64 := hn n List.mem_cons_self
    have hstep : tail start t (code n :: (ns.map code ++ bs)) =
        tail start { t with sextets := t.sextets ++ [n], last := code n } (ns.map code ++ bs) := by
      rw [tail, if_neg (code_ne_pad n hlt), if_neg (by omega), sextet_code _ hlt, Json.ok_bind]
    obtain ⟨last, hlast⟩ := ih (fun m hm => hn m (List.mem_cons_of_mem n hm))
      (t := { t with sextets := t.sextets ++ [n], last := code n }) ht
    refine ⟨last, ?_⟩
    rw [List.map_cons, List.cons_append, hstep, hlast, List.append_assoc]
    rfl

theorem tail_pads (start : Nat) {t : Tail} (ht : 2 ≤ t.sextets.length) (k : Nat) :
    tail start t (List.replicate k pad) = .ok { t with pads := t.pads + k } := by
  induction k generalizing t with
  | zero => rfl
  | succ k ih =>
    rw [List.replicate_succ, tail, if_pos rfl, if_neg (by omega)]
    have h := ih (t := { t with pads := t.pads + 1 }) ht
    rw [h, Nat.add_assoc, Nat.add_comm 1 k]

/-- A last group that is filled up and has no bits to spare. -/
theorem lastGroup_codes (start : Nat) (ns : List Nat) (hn : ∀ n ∈ ns, n < 64)
    (hlo : 2 ≤ ns.length) (hhi : ns.length ≤ 4) (hs : spare ns = 0) :
    lastGroup start (ns.map code ++ List.replicate (4 - ns.length) pad) = .ok (octets ns) := by
  obtain ⟨last, hlast⟩ := tail_codes start hn (t := {}) rfl (List.replicate (4 - ns.length) pad)
  have hpads := tail_pads start (t := { sextets := ns, last := last }) hlo (4 - ns.length)
  rw [lastGroup, hlast, List.nil_append, hpads, Json.ok_bind]
  dsimp only
  rw [if_neg (fun h => absurd h.2 (by omega)), if_neg (by omega), if_neg (by rw [hs]; decide)]

theorem groups_codes (start : Nat) {w x y z : Nat} (hw : w < 64) (hx : x < 64) (hy : y < 64)
    (hz : z < 64) {bs : List UInt8} (hb : bs ≠ []) :
    groups start (code w :: code x :: code y :: code z :: bs) =
      (groups (start + 4) bs).map (octets [w, x, y, z] ++ ·) := by
  obtain ⟨e, rest, rfl⟩ := List.exists_cons_of_ne_nil hb
  rw [groups, sextet_code _ hw, sextet_code _ hx, sextet_code _ hy, sextet_code _ hz]
  simp only [Json.ok_bind]
  cases groups (start + 4) (e :: rest) <;> rfl

/-! Whole payloads -/

theorem utf8_encode_one (a : UInt8) :
    Text.utf8 (encode [a]) =
      [a.toNat / 4, a.toNat % 4 * 16].map code ++ List.replicate 2 pad := by
  have ha := a.toNat_lt
  rw [encode, utf8_cons (by omega), utf8_cons (by omega)]
  rfl

theorem utf8_encode_two (a b : UInt8) :
    Text.utf8 (encode [a, b]) =
      [a.toNat / 4, a.toNat % 4 * 16 + b.toNat / 16, b.toNat % 16 * 4].map code ++
        List.replicate 1 pad := by
  have ha := a.toNat_lt
  have hb := b.toNat_lt
  rw [encode, utf8_cons (by omega), utf8_cons (by omega), utf8_cons (by omega)]
  rfl

theorem utf8_encode_three (a b c : UInt8) (rest : List UInt8) :
    Text.utf8 (encode (a :: b :: c :: rest)) =
      [a.toNat / 4, a.toNat % 4 * 16 + b.toNat / 16, b.toNat % 16 * 4 + c.toNat / 64,
        c.toNat % 64].map code ++ Text.utf8 (encode rest) := by
  have ha := a.toNat_lt
  have hb := b.toNat_lt
  have hc := c.toNat_lt
  rw [encode, utf8_cons (by omega), utf8_cons (by omega), utf8_cons (by omega),
    utf8_cons (by omega)]
  rfl

theorem length_encode (bs : List UInt8) : (Text.utf8 (encode bs)).length % 4 = 0 := by
  induction bs using encode.induct with
  | case1 => rfl
  | case2 a => simp [utf8_encode_one]
  | case3 a b => simp [utf8_encode_two]
  | case4 a b c rest ih =>
    rw [utf8_encode_three, List.length_append, Nat.add_mod, ih]
    simp

theorem encode_ne_nil {bs : List UInt8} (hb : bs ≠ []) : Text.utf8 (encode bs) ≠ [] := by
  cases bs using encode.induct with
  | case1 => exact absurd rfl hb
  | case2 a => simp [utf8_encode_one]
  | case3 a b => simp [utf8_encode_two]
  | case4 a b c rest => simp [utf8_encode_three]

theorem groups_last (start : Nat) {bs : List UInt8} (hb : bs.length ≤ 4) :
    groups start bs = lastGroup start bs := by
  unfold groups
  split
  · simp only [List.length_cons] at hb
    omega
  · rfl

theorem groups_encode (start : Nat) (bs : List UInt8) :
    groups start (Text.utf8 (encode bs)) = .ok bs := by
  induction bs using encode.induct generalizing start with
  | case1 => rfl
  | case2 a =>
    have ha := a.toNat_lt
    have h := lastGroup_codes start [a.toNat / 4, a.toNat % 4 * 16] (by simp; omega) (by simp)
      (by simp) (Nat.mul_mod_left _ _)
    rw [octets_one] at h
    rw [utf8_encode_one, groups_last start (by simp)]
    exact h
  | case3 a b =>
    have ha := a.toNat_lt
    have hb := b.toNat_lt
    have h := lastGroup_codes start
      [a.toNat / 4, a.toNat % 4 * 16 + b.toNat / 16, b.toNat % 16 * 4] (by simp; omega) (by simp)
      (by simp) (Nat.mul_mod_left _ _)
    rw [octets_two] at h
    rw [utf8_encode_two, groups_last start (by simp)]
    exact h
  | case4 a b c rest ih =>
    have ha := a.toNat_lt
    have hb := b.toNat_lt
    have hc := c.toNat_lt
    rw [utf8_encode_three]
    by_cases hrest : rest = []
    · have h := lastGroup_codes start
        [a.toNat / 4, a.toNat % 4 * 16 + b.toNat / 16, b.toNat % 16 * 4 + c.toNat / 64,
          c.toNat % 64] (by simp; omega) (by simp) (by simp) rfl
      rw [octets_three] at h
      rw [hrest, groups_last start (by simp [encode, Text.utf8])]
      exact h
    · have h := groups_codes start (w := a.toNat / 4) (x := a.toNat % 4 * 16 + b.toNat / 16)
        (y := b.toNat % 16 * 4 + c.toNat / 64) (z := c.toNat % 64) (by omega) (by omega) (by omega)
        (by omega) (encode_ne_nil hrest)
      rw [octets_three, ih] at h
      exact h

theorem decode_encode (bs : List UInt8) : decode (String.ofList (encode bs)) = .ok bs := by
  have hstray : stray (Text.utf8 (encode bs)) = none := by
    rw [stray, length_encode, if_neg (by decide)]
  simp only [decode, String.toList_ofList, hstray, groups_encode]

end Intercept.Base64
