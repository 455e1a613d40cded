import Intercept.Proofs.Json.Scalars
import Intercept.Proofs.Text.Utf8
import Intercept.Proofs.Url.Domain
import Intercept.Proofs.Url.Groups
import Intercept.Proofs.Url.Percent

/-!
Hosts are read as they are written, but for a domain with a code that is too long to be read.
-/

namespace Intercept.Url.Host

open Text

/-! ### Four bytes -/

def bytes (address : Nat) : List Nat := [0x1000000, 0x10000, 0x100, 1].map (address / · % 256)

theorem byte_lt {address n : Nat} (h : n ∈ bytes address) : n < 256 := by
  obtain ⟨w, -, rfl⟩ := List.mem_map.1 h
  exact Nat.mod_lt _ (by decide)

/-- A number that begins with no zero is read in the usual way. -/
theorem part?_toDigits (n : Nat) : part? (Nat.toDigits 10 n) = some n := by
  rcases Nat.eq_zero_or_pos n with rfl | hpos
  · rfl
  · obtain ⟨c, cs, hcs, hc⟩ := Json.toDigits_head hpos
    have hread : ofDigits? 10 (Nat.toDigits 10 n) = some n :=
      ofDigits?_toDigits (by decide) (by decide) n
    rw [hcs] at hread ⊢
    rw [part?]
    · exact hread
    all_goals simp [hc]

/-- A byte as it is written. -/
theorem label_digits {n : Nat} {c : Char} (h : c ∈ Nat.toDigits 10 n) :
    c.isDigit = true ∧ Domain.Ordinary c := by
  obtain ⟨d, hd, rfl⟩ := digitChar_of_mem_toDigits (by decide) h
  have hall : ∀ e < 10, e.digitChar.isDigit = true ∧ e.digitChar.toNat < 0x80 ∧
      (e.digitChar.toNat < 0x41 ∨ 0x5A < e.digitChar.toNat) ∧
        Domain.isForbidden e.digitChar = false := by decide
  obtain ⟨hdigit, hascii, hsmall, hallowed⟩ := hall d hd
  exact ⟨hdigit, hascii, (Domain.stays_ascii hascii).2 hsmall, hallowed⟩

theorem chars_ipv4 (address : Nat) :
    (Host.ipv4 address).chars = List.intercalate ['.'] ((bytes address).map (Nat.toDigits 10)) := by
  rw [chars, bytes, List.map_map]
  rfl

theorem ipv4?_eq_some {name : List Char} {address : Nat} (h : ipv4? name = some address) :
    ∃ (front : List Nat) (last : Nat), front.length ≤ 3 ∧ (∀ n ∈ front, n ≤ 255) ∧
      last < 256 ^ (4 - front.length) ∧
      address = front.foldr (fun n rest => n * 0x1000000 + rest / 0x100) 0 + last := by
  unfold ipv4? at h
  simp only [Option.bind_eq_bind, Option.bind_eq_some_iff] at h
  obtain ⟨parts, -, last, -, h⟩ := h
  split at h
  next hfits =>
    obtain ⟨hlen, hbytes, hlast⟩ := hfits
    have hall : ∀ n ∈ parts.dropLast, n ≤ 255 := by simpa using hbytes
    exact ⟨parts.dropLast, last, hlen, hall, hlast, (Option.some.inj h).symm⟩
  next => cases h

/-- What the bytes in front leave room for. -/
theorem foldr_bytes_le {front : List Nat} (hlen : front.length ≤ 3) (h : ∀ n ∈ front, n ≤ 255) :
    front.foldr (fun n rest => n * 0x1000000 + rest / 0x100) 0 + 256 ^ (4 - front.length) ≤
      0x100000000 := by
  induction front with
  | nil => simp
  | cons n front ih =>
    obtain ⟨hn, hfront⟩ := List.forall_mem_cons.1 h
    rw [List.length_cons] at hlen ⊢
    have hle := ih (by omega) hfront
    have hroom : 256 ^ (4 - front.length) = 256 ^ (4 - (front.length + 1)) * 256 := by
      rw [← Nat.pow_succ]
      congr 1
      omega
    rw [hroom] at hle
    rw [List.foldr_cons]
    omega

theorem ipv4?_lt {name : List Char} {address : Nat} (h : ipv4? name = some address) :
    address < 0x100000000 := by
  obtain ⟨front, last, hlen, hbytes, hlast, rfl⟩ := ipv4?_eq_some h
  have hle := foldr_bytes_le hlen hbytes
  omega

theorem getLast?_bytes (address : Nat) : (bytes address).getLast? = some (address % 256) := by
  simp [bytes]

/-- What four bytes make. -/
theorem sum_bytes {address : Nat} (h : address < 0x100000000) :
    (bytes address).dropLast.foldr (fun n rest => n * 0x1000000 + rest / 0x100) 0 +
      address % 256 = address := by
  have hfront : (bytes address).dropLast =
      [address / 0x1000000 % 256, address / 0x10000 % 256, address / 0x100 % 256] := rfl
  rw [hfront, List.foldr_cons, List.foldr_cons, List.foldr_cons, List.foldr_nil]
  omega

theorem split_ipv4 (address : Nat) :
    Form.split '.' (Host.ipv4 address).chars = (bytes address).map (Nat.toDigits 10) := by
  rw [chars_ipv4]
  refine Form.split_intercalate (by simp [bytes]) fun part hpart hdot => ?_
  obtain ⟨n, -, rfl⟩ := List.mem_map.1 hpart
  exact absurd (label_digits hdot).1 (by decide)

theorem labels_ipv4 (address : Nat) :
    labels (Host.ipv4 address).chars = (bytes address).map (Nat.toDigits 10) := by
  rw [labels, split_ipv4, if_neg]
  rw [List.getLast?_map, getLast?_bytes, Option.map_some, Option.some.injEq]
  exact Nat.toDigits_ne_nil

theorem endsInNumber_ipv4 (address : Nat) : endsInNumber (Host.ipv4 address).chars = true := by
  have hdigits : (Nat.toDigits 10 (address % 256)).all Char.isDigit = true :=
    List.all_eq_true.2 fun c hc => (label_digits hc).1
  have hne : (Nat.toDigits 10 (address % 256)).isEmpty = false := by
    simp
  rw [endsInNumber, labels_ipv4, List.getLast?_map, getLast?_bytes]
  simp [hdigits, hne]

theorem ipv4?_chars {address : Nat} (h : address < 0x100000000) :
    ipv4? (Host.ipv4 address).chars = some address := by
  have hparts (ns : List Nat) : (ns.map (Nat.toDigits 10)).mapM part? = some ns := by
    induction ns with
    | nil => rfl
    | cons n ns ih =>
      rw [List.map_cons, List.mapM_cons, part?_toDigits n, ih]
      rfl
  have hfits : (bytes address).dropLast.length ≤ 3 ∧
      (bytes address).dropLast.all (· ≤ 255) = true ∧
        address % 256 < Nat.pow 256 (4 - (bytes address).dropLast.length) := by
    refine ⟨by simp [bytes], List.all_eq_true.2 fun n hn => ?_, ?_⟩
    · have := byte_lt (List.dropLast_subset _ hn)
      simp only [decide_eq_true_eq]
      omega
    · simp only [bytes, List.map_cons, List.map_nil, List.dropLast, List.length_cons,
        List.length_nil]
      exact Nat.mod_lt _ (by decide)
  rw [ipv4?, labels_ipv4, hparts]
  simp only [Option.bind_eq_bind, Option.bind_some, getLast?_bytes, if_pos hfits, sum_bytes h]
  rfl

/-! ### All hosts -/

theorem decodeBytes_of_notMem {bs : List UInt8} (h : 37 ∉ bs) : decodeBytes bs = bs := by
  induction bs with
  | nil => rfl
  | cons a bs ih =>
    rw [List.mem_cons, not_or] at h
    rw [decodeBytes_cons (Ne.symm h.1), ih h.2]

/-- A text without a percent sign stands for itself. -/
theorem ofUtf8?_decodeBytes {cs : List Char} (h : '%' ∉ cs) :
    ofUtf8? (decodeBytes (utf8 cs)) = some cs := by
  have hpercent : 37 ∉ utf8 cs := fun hmem => h (mem_utf8 hmem (by decide))
  rw [decodeBytes_of_notMem hpercent, ofUtf8?_utf8]

/-- A text of ordinary characters is read as a domain is. -/
theorem ofText_ordinary {name : List Char} (h : ∀ c ∈ name, Domain.Ordinary c) :
    name.head? ≠ some '[' ∧ (ofUtf8? (decodeBytes (utf8 name))).bind Domain.toAscii =
      Domain.toAscii name := by
  have hallowed {d : Char} (hd : Domain.isForbidden d = true) : d ∉ name := fun hmem => by
    simp [(h d hmem).allowed] at hd
  refine ⟨fun hhead => hallowed (by decide) (List.mem_of_head? hhead), ?_⟩
  rw [ofUtf8?_decodeBytes (hallowed (by decide)), Option.bind_some]

inductive Proper : Host → Prop
  | domain {name : List Char} (nonempty : name ≠ []) (ordinary : ∀ c ∈ name, Domain.Ordinary c)
      (again : Domain.toAscii name = if Domain.hasOverlong name then none else some name)
      (noNumber : endsInNumber name = false) : Proper (.domain name)
  | ipv4 {address : Nat} (small : address < 0x100000000) : Proper (.ipv4 address)
  | ipv6 {groups : List Nat} (eight : Groups groups) : Proper (.ipv6 groups)

theorem ofText_proper {cs : List Char} {host : Host} (h : ofText cs = .ok host) : host.Proper := by
  rw [ofText] at h
  split at h
  next =>
    rw [ofBracketed] at h
    split at h
    next =>
      split at h
      next groups hgroups =>
        cases h
        exact .ipv6 (ipv6?_groups hgroups)
      next => cases h
    next => cases h
  next =>
    split at h
    next => cases h
    next => cases h
    next name hne hname =>
      obtain ⟨text, -, hascii⟩ := Option.bind_eq_some_iff.1 hname
      obtain ⟨hordinary, hagain⟩ := Domain.toAscii_again hascii
      split at h
      next =>
        split at h
        next address haddress =>
          cases h
          exact .ipv4 (ipv4?_lt haddress)
        next => cases h
      next hnumber =>
        cases h
        exact .domain (fun he => hne (he ▸ rfl)) hordinary hagain (by simpa using hnumber)

def isOverlong : Host → Bool
  | .domain name => Domain.hasOverlong name
  | _ => false

theorem ordinary_ipv4 (address : Nat) : ∀ c ∈ (Host.ipv4 address).chars, Domain.Ordinary c := by
  intro c hc
  rw [chars_ipv4] at hc
  rcases Form.mem_intercalate hc with rfl | ⟨part, hpart, hc⟩
  · exact Domain.ordinary_dot
  · obtain ⟨n, -, rfl⟩ := List.mem_map.1 hpart
    exact (label_digits hc).2

theorem toAscii_ipv4 (address : Nat) :
    Domain.toAscii (Host.ipv4 address).chars = some (Host.ipv4 address).chars := by
  rw [chars_ipv4]
  refine Domain.toAscii_plain (by simp [bytes]) fun part hpart => ?_
  obtain ⟨n, -, rfl⟩ := List.mem_map.1 hpart
  refine ⟨fun c hc => (label_digits hc).2, fun hdot => ?_, ?_⟩
  · exact absurd (label_digits hdot).1 (by decide)
  · rw [Bool.eq_false_iff, ne_eq, List.isPrefixOf_iff_prefix]
    intro hbegins
    have hx : 'x' ∈ Nat.toDigits 10 n := hbegins.subset (List.mem_cons_self : 'x' ∈ Domain.mark)
    exact absurd (label_digits hx).1 (by decide)

/-- A host is read as it is written. -/
theorem ofText_chars {host : Host} (h : host.Proper) :
    ofText host.chars = if host.isOverlong then .error .domain else .ok host := by
  cases h with
  | @domain name hne hordinary hagain hnumber =>
    obtain ⟨hhead, hread⟩ := ofText_ordinary hordinary
    rw [chars, ofText, if_neg hhead, hread, hagain, isOverlong]
    cases Domain.hasOverlong name with
    | true => rfl
    | false =>
      obtain ⟨c, cs, rfl⟩ := List.exists_cons_of_ne_nil hne
      simp [hnumber]
  | @ipv4 address hsmall =>
    obtain ⟨hhead, hread⟩ := ofText_ordinary (ordinary_ipv4 address)
    rw [ofText, if_neg hhead, hread, toAscii_ipv4]
    have hnumber := endsInNumber_ipv4 address
    have hagain := ipv4?_chars hsmall
    cases hchars : (Host.ipv4 address).chars with
    | nil => simp [hchars, endsInNumber, labels, Form.split] at hnumber
    | cons c cs =>
      rw [hchars] at hnumber hagain
      simp [hnumber, hagain, isOverlong]
  | @ipv6 groups height =>
    obtain ⟨inner, hchars, hread, -⟩ := ipv6?_chars height
    rw [hchars, ofText, if_pos (by simp), ofBracketed, if_pos List.getLast?_concat]
    simp [hread, isOverlong]

end Intercept.Url.Host
