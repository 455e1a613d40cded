import Intercept.Proofs.Text.CodePoints
import Intercept.Proofs.Text.Utf8
import Intercept.Proofs.Url.Form
import Intercept.Proofs.Url.Percent

/-!
Queries are read as they were meant. What stands for a name or a value holds neither of the two
signs that divide a query, and nothing that an address would write in another way; so the parts come
apart where they were joined, and each of them says what was put into it.
-/

namespace Intercept.Url

def digitByte (n : Nat) : UInt8 := UInt8.ofNat (upperHex n).toNat

theorem digitByte_spec : ∀ n < 16, Char.ofNat (digitByte n).toNat = upperHex n ∧
    (digitByte n).toNat < 0x80 ∧ hexDigit? (digitByte n) = some n ∧ upperHex n ≠ '+' := by
  decide

namespace Form

/-! ### One name or value -/

theorem plain_ascii : ∀ b : UInt8, isPlain b = true → b.toNat < 0x80 ∧ b ≠ 37 :=
  Text.forall_byte (by decide +kernel)

theorem plain_admitted : ∀ b : UInt8, isPlain b = true →
    refusedInQuery (Char.ofNat b.toNat) = false :=
  Text.forall_byte (by decide +kernel)

theorem plain_notMem : ∀ b : UInt8, isPlain b = true → Char.ofNat b.toNat ∉ ['+', '&', '='] :=
  Text.forall_byte (by decide +kernel)

/-- The bytes that a text is decoded from, a plus sign being a blank. -/
def spaced (cs : List Char) : List UInt8 := Text.utf8 (cs.map fun c => if c = '+' then ' ' else c)

theorem spaced_append (front back : List Char) :
    spaced (front ++ back) = spaced front ++ spaced back := by
  rw [spaced, List.map_append, Text.utf8, List.flatMap_append]
  rfl

theorem spaced_ascii {b : UInt8} (h : b.toNat < 0x80) (hplus : Char.ofNat b.toNat ≠ '+')
    (cs : List Char) : spaced (Char.ofNat b.toNat :: cs) = b :: spaced cs := by
  rw [spaced, List.map_cons, if_neg hplus, Text.utf8_ascii h]
  rfl

theorem spaced_percentByte (b : UInt8) :
    spaced (percentByte b) = [37, digitByte (b.toNat / 16), digitByte (b.toNat % 16)] := by
  have hb := b.toNat_lt
  obtain ⟨hhigh, hlow, -, hplus⟩ := digitByte_spec (b.toNat / 16) (by omega)
  obtain ⟨hhigh', hlow', -, hplus'⟩ := digitByte_spec (b.toNat % 16) (by omega)
  have hpercent : '%' = Char.ofNat (37 : UInt8).toNat := rfl
  rw [percentByte, ← hhigh, ← hhigh', hpercent, spaced_ascii (by decide) (by decide),
    spaced_ascii hlow (hhigh ▸ hplus), spaced_ascii hlow' (hhigh' ▸ hplus')]
  rfl

theorem decodeBytes_encodeByte (b : UInt8) (bs : List UInt8) :
    decodeBytes (spaced (encodeByte b) ++ bs) = b :: decodeBytes bs := by
  rw [encodeByte]
  split
  next hblank =>
    rw [hblank]
    exact decodeBytes_cons (by decide) bs
  next =>
    split
    next hplain =>
      obtain ⟨hascii, hpercent⟩ := plain_ascii b hplain
      rw [spaced_ascii hascii (List.ne_of_not_mem_cons (plain_notMem b hplain))]
      exact decodeBytes_cons hpercent bs
    next =>
      have hb := b.toNat_lt
      obtain ⟨-, -, hhigh, -⟩ := digitByte_spec (b.toNat / 16) (by omega)
      obtain ⟨-, -, hlow, -⟩ := digitByte_spec (b.toNat % 16) (by omega)
      have hsum : b.toNat / 16 * 16 + b.toNat % 16 = b.toNat := by omega
      rw [spaced_percentByte, List.cons_append, List.cons_append, List.cons_append, decodeBytes,
        if_pos rfl, hhigh, hlow]
      simp only [hsum, UInt8.ofNat_toNat, List.nil_append]

/-- Whatever text is encoded, it is decoded to. -/
theorem decodeText_encode (s : String) : decodeText (encode s) = s := by
  have hbytes (bs : List UInt8) : decodeBytes (spaced (bs.flatMap encodeByte)) = bs := by
    induction bs with
    | nil => rfl
    | cons b bs ih => rw [List.flatMap_cons, spaced_append, decodeBytes_encodeByte, ih]
  have hspaced : decodeText (encode s) =
      String.ofList (Text.ofUtf8 (decodeBytes (spaced (encode s)))) := rfl
  rw [hspaced, encode, hbytes, Text.ofUtf8_utf8, String.ofList_toList]

/-! ### Parts -/

/-- A character that neither divides a query nor is written in another way in it. -/
structure Safe (c : Char) : Prop where
  admitted : Admitted refusedInQuery c
  notAnd : c ≠ '&'
  notEqual : c ≠ '='

instance (c : Char) : Decidable (Safe c) :=
  decidable_of_iff ((c.toNat < 128 ∧ refusedInQuery c = false) ∧ c ≠ '&' ∧ c ≠ '=')
    ⟨fun ⟨⟨hascii, hnot⟩, hand, heq⟩ => ⟨⟨hascii, hnot⟩, hand, heq⟩,
      fun ⟨⟨hascii, hnot⟩, hand, heq⟩ => ⟨⟨hascii, hnot⟩, hand, heq⟩⟩

theorem safe_encode {s : String} {c : Char} (h : c ∈ encode s) : Safe c := by
  have hdigit : ∀ n < 16, Safe (upperHex n) := by decide
  obtain ⟨b, -, hc⟩ := List.mem_flatMap.1 h
  rw [encodeByte] at hc
  split at hc
  next =>
    rw [List.mem_singleton.1 hc]
    decide
  next =>
    split at hc
    next hplain =>
      obtain ⟨hascii, -⟩ := plain_ascii b hplain
      have hother := plain_notMem b hplain
      simp only [List.mem_cons, List.not_mem_nil, or_false, not_or] at hother
      obtain ⟨-, hand, heq⟩ := hother
      rw [List.mem_singleton.1 hc]
      refine ⟨⟨?_, plain_admitted b hplain⟩, hand, heq⟩
      rw [Text.toNat_ofNat]
      · exact hascii
      · exact .inl (by omega)
    next =>
      have hb := b.toNat_lt
      simp only [percentByte, List.mem_cons, List.not_mem_nil, or_false] at hc
      rcases hc with rfl | rfl | rfl
      · decide
      · exact hdigit _ (by omega)
      · exact hdigit _ (by omega)

theorem pair_ne_nil (name value : String) : pair name value ≠ [] := by simp [pair]

theorem and_notMem_pair (name value : String) : '&' ∉ pair name value := by
  rw [pair, List.mem_append, List.mem_cons]
  rintro (h | h | h)
  · exact (safe_encode h).notAnd rfl
  · exact absurd h (by decide)
  · exact (safe_encode h).notAnd rfl

theorem admitted_pair {name value : String} {c : Char} (h : c ∈ pair name value) :
    Admitted refusedInQuery c := by
  rw [pair, List.mem_append, List.mem_cons] at h
  rcases h with h | rfl | h
  · exact (safe_encode h).admitted
  · exact ⟨by decide, by decide⟩
  · exact (safe_encode h).admitted

theorem decodePair_pair (name value : String) : decodePair (pair name value) = (name, value) := by
  have hname : ∀ c ∈ encode name, decide (c ≠ '=') = true := fun c hc =>
    decide_eq_true (safe_encode hc).notEqual
  have htake : (pair name value).takeWhile (· ≠ '=') = encode name := by
    rw [pair, List.takeWhile_append_of_pos hname, List.takeWhile_cons_of_neg (by simp),
      List.append_nil]
  have hdrop : (pair name value).dropWhile (· ≠ '=') = '=' :: encode value := by
    rw [pair, List.dropWhile_append_of_pos hname, List.dropWhile_cons_of_neg (by simp)]
  rw [decodePair, htake, hdrop, List.drop_one, List.tail_cons, decodeText_encode,
    decodeText_encode]

/-! ### Whole queries -/

theorem join_eq_intercalate (parts : List (List Char)) :
    join parts = List.intercalate ['&'] parts := by
  induction parts with
  | nil => rfl
  | cons p parts ih =>
    cases parts with
    | nil => simp [join]
    | cons q parts => rw [join, ih, intercalate_cons_cons]

/-- The parts of a query are decoded one by one, as they were joined. -/
theorem decode_join {parts : List (List Char)} (h : ∀ p ∈ parts, p ≠ [] ∧ '&' ∉ p) :
    decode (join parts) = parts.map decodePair := by
  cases parts with
  | nil => rfl
  | cons p parts =>
    have hfilter : (p :: parts).filter (fun part => !part.isEmpty) = p :: parts :=
      List.filter_eq_self.2 fun q hq => by simpa using (h q hq).1
    rw [decode, join_eq_intercalate,
      split_intercalate (List.cons_ne_nil p parts) fun q hq => (h q hq).2, hfilter]

/-- A query of names with values says these names and values. -/
theorem decode_pairs (pairs : List (String × String)) :
    decode (join (pairs.map fun (k, v) => pair k v)) = pairs := by
  have hparts : ∀ p ∈ pairs.map fun (k, v) => pair k v, p ≠ [] ∧ '&' ∉ p := by
    intro p hp
    obtain ⟨⟨k, v⟩, -, rfl⟩ := List.mem_map.1 hp
    exact ⟨pair_ne_nil k v, and_notMem_pair k v⟩
  have hpair : decodePair ∘ (fun (k, v) => pair k v) = id :=
    funext fun (k, v) => decodePair_pair k v
  rw [decode_join hparts, List.map_map, hpair, List.map_id]

theorem admitted_join {parts : List (List Char)}
    (h : ∀ p ∈ parts, ∀ c ∈ p, Admitted refusedInQuery c) {c : Char} (hc : c ∈ join parts) :
    Admitted refusedInQuery c := by
  rw [join_eq_intercalate] at hc
  rcases mem_intercalate hc with rfl | ⟨p, hp, hcp⟩
  · exact ⟨by decide, by decide⟩
  · exact h p hp c hcp

end Form

end Intercept.Url
