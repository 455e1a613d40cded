import Intercept.Proofs.Url.Host
import Intercept.Proofs.Url.Path
import Intercept.Url.Address
import Mathlib.Data.List.TakeWhile

/-!
An address is read as it is written: each part is written in characters that its reader keeps, and
behind each part stands a sign that is in none of them. Only a host with a code that is too long is
refused when it is read again.
-/

namespace Intercept.Url

/-! ### Characters -/

/-- Neither a blank nor a control, the characters that reading takes from the ends. -/
def Visible (c : Char) : Prop := 32 < c.toNat

theorem visible_of_all {cs : List Char} (h : (cs.all fun c => decide (32 < c.toNat)) = true) :
    ∀ c ∈ cs, Visible c := fun c hc => by
  have hc := List.all_eq_true.1 h c hc
  exact of_decide_eq_true (p := 32 < c.toNat) hc

theorem Admitted.ne {refused : Char → Bool} {c d : Char} (h : Admitted refused c)
    (hd : refused d = true) : c ≠ d := by
  rintro rfl
  simp [h.notRefused] at hd

theorem visible_of_not {c : Char} (hcontrol : isControl c = false) (hblank : c ≠ ' ') :
    Visible c := by
  have hne : c.toNat ≠ 32 := fun he => hblank (Char.toNat_inj.1 he)
  simp only [isControl, Bool.or_eq_false_iff, decide_eq_false_iff_not] at hcontrol
  unfold Visible
  omega

theorem Admitted.visible_fragment {c : Char} (h : Admitted refusedInFragment c) : Visible c := by
  have hrefused := h.notRefused
  rw [refusedInFragment, Bool.or_eq_false_iff] at hrefused
  exact visible_of_not hrefused.1 (h.ne (by decide))

theorem Admitted.fragment {c : Char} (h : Admitted refusedInPath c) :
    Admitted refusedInFragment c := by
  have hrefused := h.notRefused
  rw [refusedInPath, Bool.or_eq_false_iff] at hrefused
  exact ⟨h.ascii, hrefused.1⟩

theorem Admitted.path {c : Char} (h : Admitted refusedInUser c) : Admitted refusedInPath c := by
  have hrefused := h.notRefused
  rw [refusedInUser, Bool.or_eq_false_iff] at hrefused
  exact ⟨h.ascii, hrefused.1⟩

theorem Admitted.visible_query {c : Char} (h : Admitted refusedInQuery c) : Visible c := by
  have hrefused := h.notRefused
  rw [refusedInQuery, Bool.or_eq_false_iff] at hrefused
  exact visible_of_not hrefused.1 (h.ne (by decide))

/-- A character inside the part of an address that names the host and the user: none of the signs
that end this part. -/
structure Inner (c : Char) : Prop where
  visible : Visible c
  slash : c ≠ '/'
  backslash : c ≠ '\\'
  question : c ≠ '?'
  hash : c ≠ '#'

theorem Inner.stays {c : Char} (h : Inner c) (family : Family) :
    endsAuthority family c = false := by
  simp [endsAuthority, isSlash, h.slash, h.backslash, h.question, h.hash]

theorem Admitted.inner {c : Char} (h : Admitted refusedInUser c) : Inner c :=
  ⟨h.path.fragment.visible_fragment, h.ne (by decide), h.ne (by decide), h.ne (by decide),
    h.ne (by decide)⟩

theorem ordinary_ne {c d : Char} (h : Domain.Ordinary c) (hd : Domain.isForbidden d = true) :
    c ≠ d := by
  rintro rfl
  simp [h.allowed] at hd

theorem inner_of_ordinary {c : Char} (h : Domain.Ordinary c) : Inner c := by
  have hallowed := h.allowed
  simp only [Domain.isForbidden, Bool.or_eq_false_iff, decide_eq_false_iff_not] at hallowed
  exact ⟨Nat.not_le.1 hallowed.1.1, ordinary_ne h (by decide), ordinary_ne h (by decide),
    ordinary_ne h (by decide), ordinary_ne h (by decide)⟩

/-- The signs of hosts that are no domains. -/
theorem inner_sign {c : Char} (h : c ∈ [':', '[', ']']) : Inner c ∧ c ≠ '@' := by
  simp only [List.mem_cons, List.not_mem_nil, or_false] at h
  rcases h with rfl | rfl | rfl
  all_goals
    refine ⟨⟨?_, by decide, by decide, by decide, by decide⟩, by decide⟩
    unfold Visible
    decide

theorem inner_digit {d : Nat} (h : d < 16) : Inner d.digitChar ∧ d.digitChar ≠ '@' ∧
    d.digitChar ≠ ':' ∧ d.digitChar ≠ '[' ∧ d.digitChar ≠ ']' := by
  have hall : ∀ e < 16, 32 < e.digitChar.toNat ∧ e.digitChar ≠ '/' ∧ e.digitChar ≠ '\\' ∧
      e.digitChar ≠ '?' ∧ e.digitChar ≠ '#' ∧ e.digitChar ≠ '@' ∧ e.digitChar ≠ ':' ∧
        e.digitChar ≠ '[' ∧ e.digitChar ≠ ']' := by decide
  obtain ⟨hv, hs, hb, hq, hh, hrest⟩ := hall d h
  exact ⟨⟨hv, hs, hb, hq, hh⟩, hrest⟩

/-! ### Hosts in addresses -/

theorem Host.inner_chars {host : Host} (h : host.Proper) : ∀ c ∈ host.chars, Inner c ∧ c ≠ '@' := by
  intro c hc
  cases h with
  | domain _ hordinary =>
    have hc := hordinary c hc
    exact ⟨inner_of_ordinary hc, ordinary_ne hc (by decide)⟩
  | ipv4 =>
    have hc := Host.ordinary_ipv4 _ c hc
    exact ⟨inner_of_ordinary hc, ordinary_ne hc (by decide)⟩
  | ipv6 height =>
    obtain ⟨inner, hchars, -, hinner⟩ := Host.ipv6?_chars height
    rw [hchars] at hc
    simp only [List.cons_append, List.mem_cons, List.mem_append, List.not_mem_nil, or_false] at hc
    rcases hc with rfl | hc | rfl
    · exact inner_sign (by simp)
    · rcases hinner c hc with rfl | ⟨d, hd, rfl⟩
      · exact inner_sign (by simp)
      · exact ⟨(inner_digit hd).1, (inner_digit hd).2.1⟩
    · exact inner_sign (by simp)

theorem Host.chars_ne_nil {host : Host} (h : host.Proper) : host.chars ≠ [] := by
  cases h with
  | domain hne => exact hne
  | @ipv4 address =>
    intro hnil
    have hnumber := Host.endsInNumber_ipv4 address
    simp [hnil, Host.endsInNumber, Host.labels, Form.split] at hnumber
  | ipv6 height =>
    obtain ⟨inner, hchars, -⟩ := Host.ipv6?_chars height
    simp [hchars]

/-- Outside brackets a host goes on up to a colon or an end. -/
theorem hostChars_append (family : Family) {name rest : List Char}
    (hname : ∀ c ∈ name, Inner c ∧ c ≠ ':' ∧ c ≠ '[') (hrest : hostChars family false rest = []) :
    hostChars family false (name ++ rest) = name := by
  induction name with
  | nil => exact hrest
  | cons c name ih =>
    obtain ⟨⟨hc, hcolon, hbracket⟩, hname⟩ := List.forall_mem_cons.1 hname
    rw [List.cons_append, hostChars, if_neg (by simp [hcolon, hc.stays]), if_neg hbracket, ite_self,
      ih hname]

/-- Inside brackets it goes on up to the closing one. -/
theorem hostChars_inside (family : Family) {inner rest : List Char}
    (hinner : ∀ c ∈ inner, Inner c ∧ c ≠ '[' ∧ c ≠ ']') :
    hostChars family true (inner ++ ']' :: rest) = inner ++ ']' :: hostChars family false rest := by
  induction inner with
  | nil =>
    have hstays : endsAuthority family ']' = false := by cases family <;> rfl
    rw [List.nil_append, hostChars, if_neg (by simp [hstays]), if_neg (by decide), if_pos rfl]
    rfl
  | cons c inner ih =>
    obtain ⟨⟨hc, hopen, hclose⟩, hinner⟩ := List.forall_mem_cons.1 hinner
    rw [List.cons_append, hostChars, if_neg (by simp [hc.stays]), if_neg hopen, if_neg hclose,
      ih hinner, List.cons_append]

theorem hostChars_chars {host : Host} (h : host.Proper) (family : Family) {rest : List Char}
    (hrest : hostChars family false rest = []) :
    hostChars family false (host.chars ++ rest) = host.chars := by
  cases h with
  | domain _ hordinary =>
    refine hostChars_append family (fun c hc => ?_) hrest
    have hc := hordinary c hc
    exact ⟨inner_of_ordinary hc, ordinary_ne hc (by decide), ordinary_ne hc (by decide)⟩
  | ipv4 =>
    refine hostChars_append family (fun c hc => ?_) hrest
    have hc := Host.ordinary_ipv4 _ c hc
    exact ⟨inner_of_ordinary hc, ordinary_ne hc (by decide), ordinary_ne hc (by decide)⟩
  | ipv6 height =>
    obtain ⟨inner, hchars, -, hinner⟩ := Host.ipv6?_chars height
    have hstays : endsAuthority family '[' = false := by cases family <;> rfl
    rw [hchars, List.append_assoc, List.cons_append, hostChars, if_neg (by simp [hstays]),
      if_pos rfl, List.singleton_append, hostChars_inside family fun c hc => ?_, hrest]
    · simp
    · rcases hinner c hc with rfl | ⟨d, hd, rfl⟩
      · exact ⟨(inner_sign (by simp)).1, by decide, by decide⟩
      · exact ⟨(inner_digit hd).1, (inner_digit hd).2.2.2⟩

/-! ### The parts of an address -/

def credentials (u : Url) : List Char :=
  u.user ++ (match u.password with | none => [] | some p => ':' :: p)

def portChars (u : Url) : List Char :=
  match u.port with | none => [] | some n => ':' :: Nat.toDigits 10 n

def tail (u : Url) : List Char :=
  (match u.query with | none => [] | some q => '?' :: q) ++
    (match u.fragment with | none => [] | some f => '#' :: f)

theorem chars_eq (u : Url) : u.chars = u.scheme.text.toList ++ ':' :: '/' :: '/' ::
    ((if u.credentials.isEmpty then [] else u.credentials ++ ['@']) ++
      (u.host.chars ++ u.portChars ++ (u.path ++ u.tail))) := by
  have hslashes : "://".toList = [':', '/', '/'] := rfl
  have hparts : u.chars = u.scheme.text.toList ++ "://".toList ++
      (if u.credentials.isEmpty then [] else u.credentials ++ ['@']) ++ u.host.chars ++
        u.portChars ++ u.path ++ (match u.query with | none => [] | some q => '?' :: q) ++
          (match u.fragment with | none => [] | some f => '#' :: f) := rfl
  rw [hparts, hslashes, tail]
  simp only [List.append_assoc, List.cons_append, List.nil_append]

structure Proper (u : Url) : Prop where
  user : ∀ c ∈ u.user, Admitted refusedInUser c
  password : ∀ p ∈ u.password, p ≠ [] ∧ ∀ c ∈ p, Admitted refusedInUser c
  host : u.host.Proper
  port : ∀ n ∈ u.port, n ≤ 65535 ∧ n ≠ u.scheme.defaultPort
  path : ∃ cs, u.path = pathOfText cs
  query : ∀ q ∈ u.query, ∀ c ∈ q, Admitted refusedInQuery c
  fragment : ∀ f ∈ u.fragment, ∀ c ∈ f, Admitted refusedInFragment c

/-! ### User and password -/

theorem ne_at_of_notMem {cs : List Char} (h : '@' ∉ cs) :
    ∀ c ∈ cs.reverse, decide (c ≠ '@') = true := fun c hc => by
  have hne : c ≠ '@' := fun he => h (he ▸ List.mem_reverse.1 hc)
  simp [hne]

theorem splitUser_none {cs : List Char} (h : '@' ∉ cs) : splitUser cs = none := by
  have hdrop : cs.reverse.dropWhile (· ≠ '@') = [] :=
    List.dropWhile_eq_nil_iff.2 (ne_at_of_notMem h)
  rw [splitUser, hdrop]

/-- The last sign is the one that counts. -/
theorem splitUser_append (front : List Char) {back : List Char} (h : '@' ∉ back) :
    splitUser (front ++ '@' :: back) = some (front, back) := by
  have hall := ne_at_of_notMem h
  have hreverse : (front ++ '@' :: back).reverse = back.reverse ++ '@' :: front.reverse := by simp
  rw [splitUser, hreverse]
  simp only [List.dropWhile_append_of_pos hall, List.takeWhile_append_of_pos hall]
  simp

theorem ofText_credentials {u : Url} (h : u.Proper) :
    User.ofText u.credentials = ⟨u.user, u.password⟩ := by
  have hcolon : ∀ c ∈ u.user, (decide (c ≠ ':')) = true := fun c hc => by
    simpa using (h.user c hc).ne (by decide)
  rw [User.ofText, credentials, List.takeWhile_append_of_pos hcolon,
    List.dropWhile_append_of_pos hcolon]
  cases hp : u.password with
  | none => simp [encodePart_of_admitted h.user]
  | some p =>
    obtain ⟨hne, hadmitted⟩ := h.password p hp
    obtain ⟨c, cs, rfl⟩ := List.exists_cons_of_ne_nil hne
    simp [encodePart_of_admitted h.user, encodePart_of_admitted hadmitted]

theorem inner_credentials {u : Url} (h : u.Proper) : ∀ c ∈ u.credentials, Inner c := by
  intro c hc
  rw [credentials, List.mem_append] at hc
  rcases hc with hc | hc
  · exact (h.user c hc).inner
  · cases hp : u.password with
    | none => simp [hp] at hc
    | some p =>
      rw [hp, List.mem_cons] at hc
      rcases hc with rfl | hc
      · exact (inner_sign (by simp)).1
      · exact ((h.password p hp).2 c hc).inner

theorem inner_place {u : Url} (h : u.Proper) :
    ∀ c ∈ u.host.chars ++ u.portChars, Inner c ∧ c ≠ '@' := by
  intro c hc
  rcases List.mem_append.1 hc with hc | hc
  · exact Host.inner_chars h.host c hc
  · rw [portChars] at hc
    split at hc
    · cases hc
    · rcases List.mem_cons.1 hc with rfl | hc
      · exact inner_sign (by simp)
      · obtain ⟨d, hd, rfl⟩ := Host.digitChar_of_mem_toDigits (by decide) hc
        obtain ⟨hinner, hat, -⟩ := inner_digit (Nat.lt_trans hd (by decide))
        exact ⟨hinner, hat⟩

def Stay (family : Family) (cs : List Char) : Prop := ∀ c ∈ cs, (!endsAuthority family c) = true

theorem takeUser_place (family : Family) {place rest : List Char} (hplace : Stay family place)
    (hat : '@' ∉ place) :
    takeUser family (place ++ '/' :: rest) = .ok ({}, place ++ '/' :: rest) := by
  have hend : endsAuthority family '/' = true := by cases family <;> rfl
  have htake : (place ++ '/' :: rest).takeWhile (fun c => !endsAuthority family c) = place := by
    rw [List.takeWhile_append_of_pos hplace, List.takeWhile_cons_of_neg (by simp [hend]),
      List.append_nil]
  rw [takeUser]
  simp only [htake, splitUser_none hat]

theorem takeUser_credentials (family : Family) {front place rest : List Char} (hne : front ≠ [])
    (hfront : Stay family front) (hplace : Stay family place) (hat : '@' ∉ place) :
    takeUser family (front ++ '@' :: (place ++ '/' :: rest)) =
      .ok (User.ofText front, place ++ '/' :: rest) := by
  have hend : endsAuthority family '/' = true := by cases family <;> rfl
  have hstays : endsAuthority family '@' = false := by cases family <;> rfl
  have hwhole :
      front ++ '@' :: (place ++ '/' :: rest) = (front ++ '@' :: place) ++ '/' :: rest := by
    simp
  have htake : (front ++ '@' :: (place ++ '/' :: rest)).takeWhile
      (fun c => !endsAuthority family c) = front ++ '@' :: place := by
    rw [List.takeWhile_append_of_pos hfront, List.takeWhile_cons_of_pos (by simp [hstays]),
      List.takeWhile_append_of_pos hplace, List.takeWhile_cons_of_neg (by simp [hend]),
      List.append_nil]
  obtain ⟨c, cs, rfl⟩ := List.exists_cons_of_ne_nil hne
  rw [takeUser]
  simp only [htake, splitUser_append _ hat]
  rw [hwhole, List.drop_left]

/-- The authority ends where the path begins. -/
theorem takeUser_written {u : Url} (h : u.Proper) (family : Family) (rest : List Char) :
    takeUser family ((if u.credentials.isEmpty then [] else u.credentials ++ ['@']) ++
      (u.host.chars ++ u.portChars ++ '/' :: rest)) =
      .ok (⟨u.user, u.password⟩, u.host.chars ++ u.portChars ++ '/' :: rest) := by
  have hat : '@' ∉ u.host.chars ++ u.portChars := fun hmem => (inner_place h _ hmem).2 rfl
  have hplace : Stay family (u.host.chars ++ u.portChars) := fun c hc => by
    rw [(inner_place h c hc).1.stays]
    rfl
  have hread := ofText_credentials h
  by_cases hempty : u.credentials = []
  · rw [hempty] at hread
    rw [hempty, List.isEmpty_nil, if_pos rfl, List.nil_append, takeUser_place family hplace hat,
      ← hread]
    rfl
  · have hcredentials : Stay family u.credentials := fun c hc => by
      rw [(inner_credentials h c hc).stays]
      rfl
    rw [if_neg (by simpa using hempty), List.append_assoc, List.singleton_append,
      takeUser_credentials family hempty hcredentials hplace hat, hread]

/-! ### Port, path and what is behind it -/

theorem takePort_written {s : Scheme} {n : Nat} (hle : n ≤ 65535) (hne : n ≠ s.defaultPort)
    (rest : List Char) :
    takePort (.web s) (Nat.toDigits 10 n ++ '/' :: rest) = .ok (some n, '/' :: rest) := by
  have hdigits : ∀ c ∈ Nat.toDigits 10 n, c.isDigit = true := fun c hc => (Host.label_digits hc).1
  have htake : (Nat.toDigits 10 n ++ '/' :: rest).takeWhile Char.isDigit = Nat.toDigits 10 n := by
    rw [List.takeWhile_append_of_pos hdigits, List.takeWhile_cons_of_neg (by decide),
      List.append_nil]
  have hdefault : (Family.defaultPort (.web s) == some n) = false := by
    simpa [Family.defaultPort] using Ne.symm hne
  rw [takePort]
  simp only [htake, Nat.ofDigitChars_ten_toDigits, List.drop_left, hdefault, Bool.or_false]
  rw [if_neg (by omega), if_neg (by simp), if_neg (by simp)]

theorem queryAndFragment_tail {u : Url} (h : u.Proper) :
    queryAndFragment u.tail = (u.query, u.fragment) := by
  have hquery : ∀ q ∈ u.query, ∀ c ∈ q, (!decide (c = '#')) = true := fun q hq c hc => by
    simpa using (h.query q hq c hc).ne (by decide)
  rw [queryAndFragment, tail]
  cases hf : u.fragment with
  | none =>
    cases hq : u.query with
    | none => rfl
    | some q =>
      have htake := List.takeWhile_eq_self_iff.2 (hquery q hq)
      have hdrop := List.dropWhile_eq_nil_iff.2 (hquery q hq)
      simp [htake, hdrop, encodePart_of_admitted (h.query q hq)]
  | some f =>
    cases hq : u.query with
    | none => simp [encodePart_of_admitted (h.fragment f hf)]
    | some q =>
      simp [List.takeWhile_append_of_pos (hquery q hq), List.dropWhile_append_of_pos (hquery q hq),
        encodePart_of_admitted (h.query q hq), encodePart_of_admitted (h.fragment f hf)]

/-- A path begins with a slash and holds no sign that ends it. -/
theorem path_chars {u : Url} (h : u.Proper) : ∃ rest, u.path = '/' :: rest ∧
    ∀ c ∈ u.path, Visible c ∧ endsPath c = false := by
  obtain ⟨cs, hcs⟩ := h.path
  obtain ⟨segments, hne, hsettled, hpath⟩ := pathOfText_eq_written cs
  obtain ⟨s, ss, rfl⟩ := List.exists_cons_of_ne_nil hne
  rw [hcs, hpath]
  refine ⟨_, written_cons s ss, fun c hc => ?_⟩
  obtain ⟨t, ht, hc⟩ := List.mem_flatMap.1 hc
  rcases List.mem_cons.1 hc with rfl | hc
  · exact ⟨by unfold Visible; decide, rfl⟩
  · have hadmitted := (hsettled t ht).admitted c hc
    refine ⟨hadmitted.fragment.visible_fragment, ?_⟩
    simp [endsPath, hadmitted.ne (d := '?') (by decide), hadmitted.ne (d := '#') (by decide)]

theorem tail_head (u : Url) : u.tail = [] ∨ ∃ c cs, u.tail = c :: cs ∧ endsPath c = true := by
  rw [tail]
  cases u.query with
  | some q => exact .inr ⟨'?', _, rfl, rfl⟩
  | none =>
    cases u.fragment with
    | some f => exact .inr ⟨'#', f, rfl, rfl⟩
    | none => exact .inl rfl

theorem path_of_behind {u : Url} (h : u.Proper) :
    (u.path ++ u.tail).takeWhile (fun c => !endsPath c) = u.path ∧
      (u.path ++ u.tail).dropWhile (fun c => !endsPath c) = u.tail := by
  obtain ⟨_, -, hchars⟩ := path_chars h
  have hpath : ∀ c ∈ u.path, (!endsPath c) = true := fun c hc => by simp [(hchars c hc).2]
  rw [List.takeWhile_append_of_pos hpath, List.dropWhile_append_of_pos hpath]
  rcases tail_head u with htail | ⟨c, cs, htail, hc⟩
  · simp [htail]
  · rw [htail, List.takeWhile_cons_of_neg (by simp [hc]), List.dropWhile_cons_of_neg (by simp [hc]),
      List.append_nil]
    exact ⟨rfl, rfl⟩

/-! ### Whole addresses -/

theorem readHost_web (s : Scheme) {name : List Char} (hne : name ≠ []) :
    readHost (.web s) name = (Host.ofText name).map some := by
  rw [readHost, if_neg (by simpa using hne)]
  · cases Host.ofText name <;> rfl
  · simp

/-- A host ends where its port or its path begins. -/
theorem hostChars_place {u : Url} (h : u.Proper) (family : Family) (rest : List Char) :
    hostChars family false (u.host.chars ++ (u.portChars ++ '/' :: rest)) = u.host.chars := by
  refine hostChars_chars h.host family ?_
  have hend : endsAuthority family '/' = true := by cases family <;> rfl
  rw [portChars]
  split
  · rw [List.nil_append, hostChars, if_pos (by simp [hend])]
  · rw [List.cons_append, hostChars, if_pos (by simp)]

theorem ofAuthority_written {u : Url} (h : u.Proper) (scheme : String) :
    ofAuthority scheme (.web u.scheme)
      ((if u.credentials.isEmpty then [] else u.credentials ++ ['@']) ++
        (u.host.chars ++ u.portChars ++ (u.path ++ u.tail))) =
      if u.host.isOverlong then .error .domain else .ok (.web u) := by
  obtain ⟨rest, hpath, -⟩ := path_chars h
  have hbehind : u.path ++ u.tail = '/' :: (rest ++ u.tail) := by rw [hpath, List.cons_append]
  have hne := Host.chars_ne_nil h.host
  obtain ⟨htake, hdrop⟩ := path_of_behind h
  rw [hbehind] at htake hdrop ⊢
  obtain ⟨cs, hcs⟩ := h.path
  have hagain : pathOfText u.path = u.path := by rw [hcs, pathOfText_pathOfText]
  rw [ofAuthority, takeUser_written h, Json.ok_bind]
  simp only
  rw [List.append_assoc, hostChars_place h, readHost_web u.scheme hne, Host.ofText_chars h.host]
  cases u.host.isOverlong with
  | true => rfl
  | false =>
    simp only [Bool.false_eq_true, if_false, Json.map_ok, Json.ok_bind, List.drop_left]
    have hempty : u.host.chars.isEmpty = false := by simpa using hne
    rw [portChars]
    cases hport : u.port with
    | none =>
      simp [hempty, htake, hdrop, hagain, queryAndFragment_tail h, ← hport]
    | some n =>
      obtain ⟨hle, hdefault⟩ := h.port n hport
      have hread := takePort_written hle hdefault (rest ++ u.tail)
      rw [List.cons_append]
      simp only [hempty, Bool.false_eq_true, if_false, hread]
      simp [htake, hdrop, hagain, queryAndFragment_tail h, ← hport, Json.ok_bind]

/-! ### Schemes -/

theorem scheme?_text (s : Scheme) (rest : List Char) :
    scheme? (s.text.toList ++ ':' :: rest) = some (s.text, rest) := by
  cases s <;> rfl

theorem ofScheme_text (s : Scheme) : Family.ofScheme s.text = .web s := by
  cases s <;> rfl

theorem visible_scheme (s : Scheme) : ∀ c ∈ s.text.toList, Visible c := by
  refine visible_of_all ?_
  cases s <;> rfl

theorem tidy_visible {cs : List Char} (h : ∀ c ∈ cs, Visible c) : tidy cs = cs := by
  have hedge : ∀ c ∈ cs, ¬decide (c.toNat ≤ 32) = true := fun c hc => by
    have := h c hc
    unfold Visible at this
    simpa using this
  have hdrop {ds : List Char} (hds : ∀ c ∈ ds, ¬decide (c.toNat ≤ 32) = true) :
      ds.dropWhile (fun c => decide (c.toNat ≤ 32)) = ds := by
    cases ds with
    | nil => rfl
    | cons c ds => exact List.dropWhile_cons_of_neg (hds c List.mem_cons_self)
  rw [tidy]
  simp only [hdrop hedge, hdrop fun c hc => hedge c (List.mem_reverse.1 hc), List.reverse_reverse]
  rw [List.filter_eq_self]
  intro c hc
  have hc := h c hc
  unfold Visible at hc
  have hne {d : Char} (hd : d.toNat ≤ 32) : (c == d) = false := by
    rw [beq_eq_false_iff_ne]
    rintro rfl
    omega
  simp [hne (d := '\t') (by decide), hne (d := '\n') (by decide), hne (d := '\r') (by decide)]

theorem visible_chars {u : Url} (h : u.Proper) : ∀ c ∈ u.chars, Visible c := by
  intro c hc
  obtain ⟨_, -, hpath⟩ := path_chars h
  rw [chars_eq, List.mem_append] at hc
  simp only [List.mem_cons, List.mem_append] at hc
  have hsign {d : Char} (hd : 32 < d.toNat) : Visible d := hd
  rcases hc with hc | rfl | rfl | rfl | hc | (hc | hc) | hc | hc
  · exact visible_scheme _ c hc
  · exact hsign (by decide)
  · exact hsign (by decide)
  · exact hsign (by decide)
  · split at hc
    · cases hc
    · rcases List.mem_append.1 hc with hc | hc
      · exact (inner_credentials h c hc).visible
      · rw [List.mem_singleton.1 hc]
        exact hsign (by decide)
  · exact (inner_place h c (List.mem_append_left _ hc)).1.visible
  · exact (inner_place h c (List.mem_append_right _ hc)).1.visible
  · exact (hpath c hc).1
  · rw [tail, List.mem_append] at hc
    rcases hc with hc | hc
    · cases hq : u.query with
      | none => simp [hq] at hc
      | some q =>
        rw [hq, List.mem_cons] at hc
        rcases hc with rfl | hc
        · exact hsign (by decide)
        · exact (h.query q hq c hc).visible_query
    · cases hf : u.fragment with
      | none => simp [hf] at hc
      | some f =>
        rw [hf, List.mem_cons] at hc
        rcases hc with rfl | hc
        · exact hsign (by decide)
        · exact (h.fragment f hf c hc).visible_fragment

/-- What stands behind the slashes of an address begins with no slash. -/
theorem dropWhile_slashes {u : Url} (h : u.Proper) (family : Family) (rest : List Char) :
    ('/' :: '/' :: ((if u.credentials.isEmpty then [] else u.credentials ++ ['@']) ++
      (u.host.chars ++ rest))).dropWhile (isSlash family) =
      (if u.credentials.isEmpty then [] else u.credentials ++ ['@']) ++ (u.host.chars ++ rest) := by
  have hslash : isSlash family '/' = true := by cases family <;> rfl
  have hinner {c : Char} {cs : List Char} (hc : Inner c) :
      (c :: cs).dropWhile (isSlash family) = c :: cs := by
    rw [List.dropWhile_cons_of_neg]
    simp [isSlash, hc.slash, hc.backslash]
  rw [List.dropWhile_cons_of_pos hslash, List.dropWhile_cons_of_pos hslash]
  by_cases hempty : u.credentials = []
  · obtain ⟨c, cs, hcs⟩ := List.exists_cons_of_ne_nil (Host.chars_ne_nil h.host)
    have hc := Host.inner_chars h.host c (hcs ▸ List.mem_cons_self)
    rw [hempty, List.isEmpty_nil, if_pos rfl, List.nil_append, hcs, List.cons_append, hinner hc.1]
  · obtain ⟨c, cs, hcs⟩ := List.exists_cons_of_ne_nil hempty
    have hc := inner_credentials h c (hcs ▸ List.mem_cons_self)
    rw [if_neg (by simpa using hempty), hcs, List.cons_append, List.cons_append, hinner hc]

/-- An address is read as it is written, unless its host has a code that is not read. -/
theorem ofText_text {u : Url} (h : u.Proper) :
    Address.ofText u.text = if u.host.isOverlong then .error .domain else .ok (.web u) := by
  have hread := ofAuthority_written h u.scheme.text
  rw [Address.ofText, text, String.toList_ofList, tidy_visible (visible_chars h), chars_eq,
    scheme?_text]
  simp only [ofScheme_text]
  rw [List.append_assoc] at hread ⊢
  rw [dropWhile_slashes h]
  exact hread

/-! ### What is read -/

theorem ofText_user (cs : List Char) :
    (∀ c ∈ (User.ofText cs).name, Admitted refusedInUser c) ∧
      ∀ p ∈ (User.ofText cs).password, p ≠ [] ∧ ∀ c ∈ p, Admitted refusedInUser c := by
  have hencoded (ds : List Char) : ∀ c ∈ encodePart refusedInUser ds, Admitted refusedInUser c :=
    fun _ => admitted_of_mem_encodePart admitsCodes_user
  rw [User.ofText]
  split
  next _ c rest _ =>
    refine ⟨hencoded _, fun p hp => ?_⟩
    cases hp
    exact ⟨encodePart_ne_nil (List.cons_ne_nil c rest), hencoded _⟩
  next => exact ⟨hencoded _, fun p hp => by cases hp⟩

theorem takeUser_user {family : Family} {cs rest : List Char} {user : User}
    (h : takeUser family cs = .ok (user, rest)) :
    (∀ c ∈ user.name, Admitted refusedInUser c) ∧
      ∀ p ∈ user.password, p ≠ [] ∧ ∀ c ∈ p, Admitted refusedInUser c := by
  rw [takeUser] at h
  split at h
  next =>
    cases h
    simp
  next =>
    split at h
    next => cases h
    next =>
      cases h
      simp
  next =>
    cases h
    exact ofText_user _

theorem takePort_port {s : Scheme} {cs rest : List Char} {port : Option Nat}
    (h : takePort (.web s) cs = .ok (port, rest)) : ∀ n ∈ port, n ≤ 65535 ∧ n ≠ s.defaultPort := by
  rw [takePort] at h
  split at h
  next => cases h
  next hle =>
    split at h
    next => cases h
    next =>
      cases h
      intro n hn
      split at hn
      next => cases hn
      next hne =>
        cases hn
        simp only [Bool.or_eq_true, not_or, Family.defaultPort, beq_iff_eq,
          Option.some.injEq] at hne
        exact ⟨Nat.le_of_not_lt hle, fun he => hne.2 he.symm⟩

theorem queryAndFragment_admitted (cs : List Char) :
    (∀ q ∈ (queryAndFragment cs).1, ∀ c ∈ q, Admitted refusedInQuery c) ∧
      ∀ f ∈ (queryAndFragment cs).2, ∀ c ∈ f, Admitted refusedInFragment c := by
  rw [queryAndFragment]
  refine ⟨fun q hq c hc => ?_, fun f hf c hc => ?_⟩
  · simp only at hq
    split at hq
    · cases hq
    · cases hq
      exact admitted_of_mem_encodePart admitsCodes_query hc
  · simp only at hf
    split at hf
    · cases hf
    · cases hf
      exact admitted_of_mem_encodePart admitsCodes_fragment hc

theorem readHost_proper {s : Scheme} {name : List Char} {host : Option Host}
    (h : readHost (.web s) name = .ok host) : ∃ read : Host, host = some read ∧ read.Proper := by
  rw [readHost] at h
  · split at h
    next => cases h
    next =>
      obtain ⟨read, hread, h⟩ := Json.ok_of_bind h
      cases h
      exact ⟨read, rfl, Host.ofText_proper hread⟩
  · simp

theorem ofAuthority_proper {scheme : String} {family : Family} {cs : List Char} {u : Url}
    (h : ofAuthority scheme family cs = .ok (.web u)) : family = .web u.scheme ∧ u.Proper := by
  rw [ofAuthority] at h
  obtain ⟨⟨user, cs⟩, huser, h⟩ := Json.ok_of_bind h
  obtain ⟨host, hhost, h⟩ := Json.ok_of_bind h
  obtain ⟨hname, hpassword⟩ := takeUser_user huser
  extract_lets place finish at h
  clear_value place
  obtain ⟨port, rest, hport, h⟩ : ∃ port rest, (∀ s, family = .web s → ∀ n ∈ port,
      n ≤ 65535 ∧ n ≠ s.defaultPort) ∧ finish (port, rest) = .ok (.web u) := by
    split at h
    next =>
      split at h
      next => cases h
      next =>
        obtain ⟨⟨port, rest⟩, hport, h⟩ := Json.ok_of_bind h
        exact ⟨port, rest, fun s hs => takePort_port (hs ▸ hport), h⟩
    next => exact ⟨none, _, by simp, h⟩
  simp only [finish] at h
  split at h
  · cases h
  · split at h
    next =>
      cases h
      obtain ⟨_, hread, hproper⟩ := readHost_proper hhost
      cases hread
      obtain ⟨hquery, hfragment⟩ := queryAndFragment_admitted (rest.dropWhile fun c => !endsPath c)
      exact ⟨rfl, hname, hpassword, hproper, hport _ rfl, ⟨_, rfl⟩, hquery, hfragment⟩
    next => cases h

def givenScheme (s : String) : Option String := (scheme? (tidy s.toList)).map (·.1)

theorem text_of_ofScheme {scheme : String} {s : Scheme} (h : Family.ofScheme scheme = .web s) :
    scheme = s.text := by
  rw [Family.ofScheme] at h
  split at h
  next found hfound =>
    cases h
    rw [Scheme.ofText?] at hfound
    have htext := List.find?_some hfound
    exact (beq_iff_eq.1 htext).symm
  next =>
    split at h
    · cases h
    · split at h <;> cases h

theorem ofText_web {s : String} {u : Url} (h : Address.ofText s = .ok (.web u)) :
    givenScheme s = some u.scheme.text ∧ u.Proper := by
  rw [Address.ofText] at h
  split at h
  next => cases h
  next scheme cs hscheme =>
    have hread {family : Family} {cs : List Char} (hfamily : Family.ofScheme scheme = family)
        (h : ofAuthority scheme family cs = .ok (.web u)) :
        givenScheme s = some u.scheme.text ∧ u.Proper := by
      obtain ⟨rfl, hproper⟩ := ofAuthority_proper h
      rw [givenScheme, hscheme, text_of_ofScheme hfamily]
      exact ⟨rfl, hproper⟩
    split at h
    next =>
      obtain ⟨_, -, h⟩ := Json.ok_of_bind h
      cases h
    next hfamily =>
      split at h
      next => exact hread hfamily h
      next => cases h
    next => exact hread rfl h

end Intercept.Url
