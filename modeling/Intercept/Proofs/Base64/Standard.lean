import Intercept.Proofs.Base64
import Intercept.Proofs.Text.Utf8

/-!
A payload has one spelling. Every text that is read is the one that is written for the bytes that
were read, so texts are told apart by their bytes. Such a text is in whole groups of four letters,
the last of them filled up with '=' and without a bit that is not in the bytes.
-/

namespace Intercept.Base64

theorem sextet?_eq_some {b : UInt8} {n : Nat} (h : sextet? b = some n) : n < 64 ∧ b = code n := by
  have hall : ∀ b, (sextet? b).all fun n => n < 64 ∧ b = code n :=
    Text.forall_byte (by decide +kernel)
  have hb := hall b
  rw [h] at hb
  simpa using hb

theorem sextet_eq_ok {start : Nat} {b : UInt8} {n : Nat} (h : sextet start b = .ok n) :
    n < 64 ∧ b = code n := by
  rw [sextet] at h
  split at h
  · rename_i m hm
    cases h
    exact sextet?_eq_some hm
  · cases h

/-! The bytes of a group, written again -/

theorem encode_two {w x : Nat} (hw : w < 64) (hx : x < 64) (hs : x % 16 = 0) :
    encode (octets [w, x]) = [letter w, letter x, '=', '='] := by
  have ha : (UInt8.ofNat (w * 4 + x / 16)).toNat = w * 4 + x / 16 :=
    Text.Utf8.toNat_ofNat_of_lt (by omega)
  rw [octets, encode, ha, show (w * 4 + x / 16) / 4 = w by omega,
    show (w * 4 + x / 16) % 4 * 16 = x by omega]

theorem encode_three {w x y : Nat} (hw : w < 64) (hx : x < 64) (hy : y < 64) (hs : y % 4 = 0) :
    encode (octets [w, x, y]) = [letter w, letter x, letter y, '='] := by
  have ha : (UInt8.ofNat (w * 4 + x / 16)).toNat = w * 4 + x / 16 :=
    Text.Utf8.toNat_ofNat_of_lt (by omega)
  have hb : (UInt8.ofNat (x % 16 * 16 + y / 4)).toNat = x % 16 * 16 + y / 4 :=
    Text.Utf8.toNat_ofNat_of_lt (by omega)
  rw [octets, encode, ha, hb, show (w * 4 + x / 16) / 4 = w by omega,
    show (w * 4 + x / 16) % 4 * 16 + (x % 16 * 16 + y / 4) / 16 = x by omega,
    show (x % 16 * 16 + y / 4) % 16 * 4 = y by omega]

theorem encode_four {w x y z : Nat} (hw : w < 64) (hx : x < 64) (hy : y < 64) (hz : z < 64)
    (bs : List UInt8) :
    encode (octets [w, x, y, z] ++ bs) =
      letter w :: letter x :: letter y :: letter z :: encode bs := by
  have ha : (UInt8.ofNat (w * 4 + x / 16)).toNat = w * 4 + x / 16 :=
    Text.Utf8.toNat_ofNat_of_lt (by omega)
  have hb : (UInt8.ofNat (x % 16 * 16 + y / 4)).toNat = x % 16 * 16 + y / 4 :=
    Text.Utf8.toNat_ofNat_of_lt (by omega)
  have hc : (UInt8.ofNat (y % 4 * 64 + z)).toNat = y % 4 * 64 + z :=
    Text.Utf8.toNat_ofNat_of_lt (by omega)
  rw [octets, List.cons_append, List.cons_append, List.cons_append, List.nil_append, encode, ha, hb,
    hc, show (w * 4 + x / 16) / 4 = w by omega,
    show (w * 4 + x / 16) % 4 * 16 + (x % 16 * 16 + y / 4) / 16 = x by omega,
    show (x % 16 * 16 + y / 4) % 16 * 4 + (y % 4 * 64 + z) / 64 = y by omega,
    show (y % 4 * 64 + z) % 64 = z by omega]

/-- A group that is filled up and has no bits to spare is what is written for its bytes. -/
theorem utf8_encode_octets {ns : List Nat} (hns : ∀ n ∈ ns, n < 64) (hlo : 2 ≤ ns.length)
    (hhi : ns.length ≤ 4) (hs : spare ns = 0) :
    Text.utf8 (encode (octets ns)) = ns.map code ++ List.replicate (4 - ns.length) pad := by
  match ns, hlo, hhi with
  | [w, x], _, _ =>
    simp only [List.forall_mem_cons] at hns
    obtain ⟨hw, hx, -⟩ := hns
    rw [encode_two hw hx hs, utf8_cons hw, utf8_cons hx]
    rfl
  | [w, x, y], _, _ =>
    simp only [List.forall_mem_cons] at hns
    obtain ⟨hw, hx, hy, -⟩ := hns
    rw [encode_three hw hx hy hs, utf8_cons hw, utf8_cons hx, utf8_cons hy]
    rfl
  | [w, x, y, z], _, _ =>
    simp only [List.forall_mem_cons] at hns
    obtain ⟨hw, hx, hy, hz, -⟩ := hns
    rw [← List.append_nil (octets [w, x, y, z]), encode_four hw hx hy hz, utf8_cons hw,
      utf8_cons hx, utf8_cons hy, utf8_cons hz]
    rfl

/-! What is read -/

/-- The last group is letters and then '='; after a '=' there is no letter. -/
theorem tail_eq_ok {start : Nat} {t t' : Tail} {bs : List UInt8} (h : tail start t bs = .ok t') :
    ∃ ns k, bs = ns.map code ++ List.replicate k pad ∧ (∀ n ∈ ns, n < 64) ∧
      (0 < t.pads → ns = []) ∧ t'.sextets = t.sextets ++ ns ∧ t'.pads = t.pads + k := by
  induction bs generalizing t with
  | nil =>
    cases h
    exact ⟨[], 0, rfl, List.forall_mem_nil _, fun _ => rfl, (List.append_nil _).symm, rfl⟩
  | cons b bs ih =>
    rw [tail] at h
    split_ifs at h with hpad hfirst hafter
    · obtain ⟨ns, k, rfl, -, hnone, hsextets, hpads⟩ := ih h
      obtain rfl := hnone (Nat.succ_pos _)
      exact ⟨[], k + 1, by rw [hpad]; rfl, List.forall_mem_nil _, fun _ => rfl, hsextets,
        by rw [hpads, Nat.add_assoc, Nat.add_comm 1 k]⟩
    · obtain ⟨n, hn, h⟩ := Json.ok_of_bind h
      obtain ⟨hlt, rfl⟩ := sextet_eq_ok hn
      obtain ⟨ns, k, rfl, hns, -, hsextets, hpads⟩ := ih h
      refine ⟨n :: ns, k, rfl, List.forall_mem_cons.2 ⟨hlt, hns⟩, fun hpos => absurd hpos hafter,
        ?_, hpads⟩
      rw [hsextets, List.append_assoc]
      rfl

theorem lastGroup_eq_ok {start : Nat} {bs b : List UInt8} (hlen : bs.length ≤ 4)
    (h : lastGroup start bs = .ok b) : bs = Text.utf8 (encode b) := by
  cases bs with
  | nil =>
    cases h
    rfl
  | cons c bs =>
    rw [lastGroup] at h
    obtain ⟨t, ht, h⟩ := Json.ok_of_bind h
    obtain ⟨ns, k, hbs, hns, -, hsextets, hpads⟩ := tail_eq_ok ht
    rw [List.nil_append] at hsextets
    rw [Nat.zero_add] at hpads
    have hsum : ns.length + k = (c :: bs).length := by
      rw [hbs, List.length_append, List.length_map, List.length_replicate]
    dsimp only at h
    rw [hsextets, hpads] at h
    split_ifs at h with hshort hfill hspare
    cases h
    have hlo : 2 ≤ ns.length := Nat.not_lt.1 fun hlt => hshort ⟨Bool.false_ne_true, hlt⟩
    rw [utf8_encode_octets hns hlo (by omega) (Decidable.not_not.1 hspare), hbs]
    congr 2
    omega

theorem groups_eq_ok {start : Nat} {bs b : List UInt8} (h : groups start bs = .ok b) :
    bs = Text.utf8 (encode b) := by
  induction start, bs using groups.induct generalizing b with
  | case1 start a₁ a₂ a₃ a₄ a₅ rest ih =>
    rw [groups] at h
    obtain ⟨w, hw, h⟩ := Json.ok_of_bind h
    obtain ⟨x, hx, h⟩ := Json.ok_of_bind h
    obtain ⟨y, hy, h⟩ := Json.ok_of_bind h
    obtain ⟨z, hz, h⟩ := Json.ok_of_bind h
    obtain ⟨more, hmore, h⟩ := Json.ok_of_bind h
    cases h
    obtain ⟨hw', rfl⟩ := sextet_eq_ok hw
    obtain ⟨hx', rfl⟩ := sextet_eq_ok hx
    obtain ⟨hy', rfl⟩ := sextet_eq_ok hy
    obtain ⟨hz', rfl⟩ := sextet_eq_ok hz
    rw [encode_four hw' hx' hy' hz', utf8_cons hw', utf8_cons hx', utf8_cons hy', utf8_cons hz',
      ← ih hmore]
  | case2 start bs hshort =>
    have hlen : bs.length ≤ 4 := by
      rcases bs with _ | ⟨a₁, _ | ⟨a₂, _ | ⟨a₃, _ | ⟨a₄, _ | ⟨a₅, rest⟩⟩⟩⟩⟩
      case cons.cons.cons.cons.cons => exact (hshort a₁ a₂ a₃ a₄ a₅ rest rfl).elim
      all_goals simp
    rw [groups_last start hlen] at h
    exact lastGroup_eq_ok hlen h

/-- A text is read as the bytes it is written for, and no other text is read. -/
theorem decode_eq_ok {s : String} {b : List UInt8} :
    decode s = .ok b ↔ s = String.ofList (encode b) := by
  constructor
  · intro h
    simp only [decode] at h
    split at h
    · cases h
    · have hutf8 := congrArg Text.ofUtf8 (groups_eq_ok h)
      rw [Text.ofUtf8_utf8, Text.ofUtf8_utf8] at hutf8
      rw [← hutf8, String.ofList_toList]
  · rintro rfl
    exact decode_encode b

/-! What such a text looks like -/

/-- Whole groups of four: letters, then at most two '='. For each of these the last letter has two
bits that belong to no byte, and they are not set. -/
def Standard (cs : List Char) : Prop :=
  ∃ (ns : List Nat) (k : Nat), cs = ns.map letter ++ List.replicate k '=' ∧ (∀ n ∈ ns, n < 64) ∧
    k ≤ 2 ∧ (ns.length + k) % 4 = 0 ∧
    ∀ n ∈ ns.getLast?, (k = 1 → n % 4 = 0) ∧ (k = 2 → n % 16 = 0)

theorem standard_encode (b : List UInt8) : Standard (encode b) := by
  induction b using encode.induct with
  | case1 => exact ⟨[], 0, rfl, List.forall_mem_nil _, Nat.zero_le _, rfl, by simp⟩
  | case2 a =>
    have ha := a.toNat_lt
    exact ⟨[a.toNat / 4, a.toNat % 4 * 16], 2, rfl, by simp; omega, Nat.le_refl _, by simp, by simp⟩
  | case3 a b =>
    have ha := a.toNat_lt
    have hb := b.toNat_lt
    exact ⟨[a.toNat / 4, a.toNat % 4 * 16 + b.toNat / 16, b.toNat % 16 * 4], 1, rfl,
      by simp; omega, by omega, by simp, by simp⟩
  | case4 a b c rest ih =>
    have ha := a.toNat_lt
    have hb := b.toNat_lt
    have hc := c.toNat_lt
    obtain ⟨ns, k, hns, hlt, hk, hlen, hlast⟩ := ih
    refine ⟨a.toNat / 4 :: (a.toNat % 4 * 16 + b.toNat / 16) ::
      (b.toNat % 16 * 4 + c.toNat / 64) :: (c.toNat % 64) :: ns, k, ?_, ?_, hk, ?_, ?_⟩
    · rw [encode, hns]
      rfl
    · simp only [List.forall_mem_cons]
      exact ⟨by omega, by omega, by omega, by omega, hlt⟩
    · simp only [List.length_cons]
      omega
    · cases ns with
      | nil =>
        obtain rfl : k = 0 := by simp at hlen; omega
        simp
      | cons n ns => simpa using hlast

theorem exists_encode (ns : List Nat) {k : Nat} (hns : ∀ n ∈ ns, n < 64) (hk : k ≤ 2)
    (hlen : (ns.length + k) % 4 = 0)
    (hlast : ∀ n ∈ ns.getLast?, (k = 1 → n % 4 = 0) ∧ (k = 2 → n % 16 = 0)) :
    ∃ b, encode b = ns.map letter ++ List.replicate k '=' := by
  match ns with
  | [] =>
    obtain rfl : k = 0 := by simp at hlen; omega
    exact ⟨[], rfl⟩
  | [w] => simp at hlen; omega
  | [w, x] =>
    obtain rfl : k = 2 := by simp at hlen; omega
    simp only [List.forall_mem_cons] at hns
    exact ⟨_, encode_two hns.1 hns.2.1 ((hlast x rfl).2 rfl)⟩
  | [w, x, y] =>
    obtain rfl : k = 1 := by simp at hlen; omega
    simp only [List.forall_mem_cons] at hns
    exact ⟨_, encode_three hns.1 hns.2.1 hns.2.2.1 ((hlast y rfl).1 rfl)⟩
  | w :: x :: y :: z :: ns =>
    simp only [List.forall_mem_cons] at hns
    obtain ⟨hw, hx, hy, hz, hns⟩ := hns
    have hrest : ∀ n ∈ ns.getLast?, (k = 1 → n % 4 = 0) ∧ (k = 2 → n % 16 = 0) := by
      intro n hn
      refine hlast n ?_
      cases ns with
      | nil => cases hn
      | cons m ns => simpa using hn
    obtain ⟨b, hb⟩ := exists_encode ns hns hk (by simp at hlen; omega) hrest
    refine ⟨octets [w, x, y, z] ++ b, ?_⟩
    rw [encode_four hw hx hy hz, hb]
    rfl

/-- The standard texts are those that are written. -/
theorem standard_iff {cs : List Char} : Standard cs ↔ ∃ b, cs = encode b := by
  constructor
  · rintro ⟨ns, k, rfl, hns, hk, hlen, hlast⟩
    obtain ⟨b, hb⟩ := exists_encode ns hns hk hlen hlast
    exact ⟨b, hb.symm⟩
  · rintro ⟨b, rfl⟩
    exact standard_encode b

end Intercept.Base64
