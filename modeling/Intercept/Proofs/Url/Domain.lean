import Intercept.Proofs.Url.Form
import Intercept.Proofs.Url.Mapping
import Intercept.Proofs.Url.Punycode

/-!
A name in ASCII is its own form in ASCII, if it is a name at all: its labels are read out of their
codes and written as they were. It is none if a code in it is longer than the codes that are read,
for labels are written whose codes are not.
-/

namespace Intercept.Url.Domain

open Text Form

/-! ### ASCII and the dot -/

theorem plain_ascii {c : Char} (h : c.toNat < 0x80) : Plain c where
  whole := decompose_of_notMem (Syllable.ofCode?_eq_none.2 (by omega)) fun hw => by
    have := le_of_whole hw
    omega
  letter := by rw [combiningClass, if_pos (by omega)]
  notSecond := fun a => by rw [joined?, if_pos (by omega)]

theorem dot_notMem_ruled : '.'.toNat ∉ ruled := fun h => by
  have := notMem_run '.'.toNat '.'.toNat (by decide +kernel) h
  omega

theorem dot_lone (c : Char) : joined? '.' c = none := by
  cases hj : joined? '.' c with
  | none => rfl
  | some w =>
    obtain ⟨n, -, hn | hr⟩ := joined?_cases hj
    · obtain ⟨s, -, -, ⟨-, ha, -⟩ | ⟨s', hs, -⟩⟩ := Syllable.join?_cases hn
      · exact absurd ha (by decide)
      · rw [Syllable.ofCode?_eq_none.2 (.inl (by decide))] at hs
        cases hs
    · exact absurd (ruled_of_rule hr).1 dot_notMem_ruled

/-- Composing makes no dots. -/
theorem dot_notMem_compose {cs : List Char} (h : '.' ∉ cs) : '.' ∉ compose cs := by
  have hne : ∀ c ∈ compose cs, c.toNat ≠ '.'.toNat := by
    refine compose_all (P := fun c => c.toNat ≠ '.'.toNat) (fun c hc => ?_) ?_ ?_
    · refine decompose_all (P := (· ≠ '.'.toNat)) (fun a b w hr _ => ?_) (fun n hn => ?_) hc
      · exact ⟨fun he => dot_notMem_ruled (he ▸ (ruled_of_rule hr).1),
          fun he => dot_notMem_ruled (he ▸ (ruled_of_rule hr).2.1)⟩
      · exact fun he => absurd hn.1 (by rw [he]; decide)
    · rintro a b w - - hw
      obtain ⟨n, rfl, hn | hr⟩ := joined?_cases hw
      · obtain ⟨s, hp, rfl, -⟩ := Syllable.join?_cases hn
        rw [toNat_ofNat (Syllable.code_valid hp)]
        intro he
        have hs := Syllable.ofCode?_code hp
        rw [he, Syllable.ofCode?_eq_none.2 (.inl (by decide))] at hs
        cases hs
      · rw [toNat_ofNat_of_ruled (ruled_of_rule hr).2.2]
        exact fun he => dot_notMem_ruled (he ▸ (ruled_of_rule hr).2.2)
    · exact fun c hc he => h (Char.toNat_inj.1 he ▸ hc)
  exact fun hmem => hne '.' hmem rfl

theorem append_inj_of_notMem {d : Char} {front back front' back' : List Char} (h : d ∉ front)
    (h' : d ∉ front') (he : front ++ d :: back = front' ++ d :: back') :
    front = front' ∧ back = back' := by
  have hs := congrArg (split d) he
  rw [split_append h, split_append h'] at hs
  obtain ⟨rfl, -⟩ := List.cons.inj hs
  exact ⟨rfl, by simpa using he⟩

/-- The labels of a name in its normal form are in their normal form. -/
theorem normal_labels {name : List Char} (h : Normal name) :
    ∀ label ∈ split '.' name, Normal label ∧ '.' ∉ label := by
  refine split_all (fun front back hfront hname => ?_) h
  have hcomp := hname.composed
  rw [compose_wall (plain_ascii (by decide)) dot_lone] at hcomp
  obtain ⟨hf, hb⟩ := append_inj_of_notMem (dot_notMem_compose hfront) hfront hcomp
  exact ⟨⟨fun c hc => hname.stays c (by simp [hc]), hf, fun c hc => hname.allowed c (by simp [hc])⟩,
    ⟨fun c hc => hname.stays c (by simp [hc]), hb, fun c hc => hname.allowed c (by simp [hc])⟩⟩

/-! ### Labels -/

theorem isAscii_iff {label : List Char} : isAscii label = true ↔ ∀ c ∈ label, c.toNat < 0x80 := by
  simp [isAscii]

theorem ofCode?_eq_some {code label : List Char} : ofCode? code = some label ↔
    code.length ≤ longestCode ∧ Punycode.decode code = some label ∧ isAscii label = false ∧
      '.' ∉ label ∧ normalize label = some label ∧ Punycode.encode label = code := by
  by_cases hlong : longestCode < code.length
  · simp [ofCode?, hlong]
  · simp [ofCode?, hlong, Option.bind_eq_some_iff, Nat.le_of_not_lt hlong, and_assoc]

/-- A label as it stands in a name: nothing in it has another spelling, and it is no code. -/
structure Label (label : List Char) : Prop where
  normal : Normal label
  dotless : '.' ∉ label
  uncoded : isAscii label = true → mark.isPrefixOf label = false

theorem label_of_readLabel {label read : List Char} (hn : Normal label) (hd : '.' ∉ label)
    (h : readLabel? label = some read) : Label read := by
  rw [readLabel?] at h
  split at h
  next hmark =>
    cases h
    exact ⟨hn, hd, fun _ => by simpa using hmark⟩
  next =>
    split at h
    next =>
      obtain ⟨-, -, hascii, hdot, hnormal, -⟩ := ofCode?_eq_some.1 h
      exact ⟨normal_of_normalize hnormal, hdot, by simp [hascii]⟩
    next => cases h

/-- Characters that a code is written with. -/
theorem mem_encode {label : List Char} {c : Char} (h : c ∈ Punycode.encode label) :
    (c ∈ label ∧ c.toNat < 0x80) ∨ c = '-' ∨ Punycode.IsDigit c := by
  rw [Punycode.encode_eq, List.mem_append, List.mem_append] at h
  rcases h with h | h | h
  · obtain ⟨hc, hlt⟩ := List.mem_filter.1 h
    exact .inl ⟨hc, by simpa using hlt⟩
  · split at h
    · cases h
    · exact .inr (.inl (by simpa using h))
  · exact .inr (.inr (Punycode.isDigit_of_mem_numbers h))

structure Ordinary (c : Char) : Prop where
  ascii : c.toNat < 0x80
  stays : Stays c.toNat
  allowed : isForbidden c = false

theorem ordinary_of_isDigit {c : Char} (h : Punycode.IsDigit c) : Ordinary c := by
  obtain ⟨n, hn, rfl⟩ := h
  have hall : ∀ m < 36, (Punycode.digit m).toNat < 0x80 ∧
      ((Punycode.digit m).toNat < 0x41 ∨ 0x5A < (Punycode.digit m).toNat) ∧
        isForbidden (Punycode.digit m) = false := by decide
  obtain ⟨hascii, hsmall, hallowed⟩ := hall n hn
  exact ⟨hascii, (stays_ascii hascii).2 hsmall, hallowed⟩

theorem ordinary_hyphen : Ordinary '-' :=
  ⟨by decide, (stays_ascii (by decide)).2 (by decide), by decide⟩

theorem ordinary_dot : Ordinary '.' :=
  ⟨by decide, (stays_ascii (by decide)).2 (by decide), by decide⟩

/-- Names in ASCII are in their normal form. -/
theorem normal_of_ordinary {cs : List Char} (h : ∀ c ∈ cs, Ordinary c) : Normal cs :=
  ⟨fun c hc => (h c hc).stays, compose_plain fun c hc => plain_ascii (h c hc).ascii,
    fun c hc => (h c hc).allowed⟩

theorem Label.ordinary {label : List Char} (h : Label label) :
    ∀ c ∈ writeLabel label, Ordinary c := by
  intro c hc
  have hof (hmem : c ∈ label) (hlt : c.toNat < 0x80) : Ordinary c :=
    ⟨hlt, h.normal.stays c hmem, h.normal.allowed c hmem⟩
  rw [writeLabel] at hc
  split at hc
  next hascii => exact hof hc (isAscii_iff.1 hascii c hc)
  next =>
    rcases List.mem_append.1 hc with hc | hc
    · have hmark : ∀ m ∈ mark, Punycode.IsDigit m ∨ m = '-' := by
        intro m hm
        have hm' : m = Punycode.digit 23 ∨ m = Punycode.digit 13 ∨ m = '-' := by
          simpa [mark, Punycode.digit] using hm
        rcases hm' with rfl | rfl | rfl
        · exact .inl ⟨23, by decide, rfl⟩
        · exact .inl ⟨13, by decide, rfl⟩
        · exact .inr rfl
      rcases hmark c hc with hd | rfl
      · exact ordinary_of_isDigit hd
      · exact ordinary_hyphen
    · rcases mem_encode hc with ⟨hmem, hlt⟩ | rfl | hd
      · exact hof hmem hlt
      · exact ordinary_hyphen
      · exact ordinary_of_isDigit hd

theorem Label.dot_notMem {label : List Char} (h : Label label) : '.' ∉ writeLabel label := by
  rw [writeLabel]
  split
  · exact h.dotless
  · rw [List.mem_append, not_or]
    refine ⟨by decide, fun hc => ?_⟩
    rcases mem_encode hc with ⟨hmem, -⟩ | he | hd
    · exact h.dotless hmem
    · cases he
    · exact hd.ne (by decide) rfl

/-- A label whose code is not read. -/
def isOverlong (label : List Char) : Bool :=
  mark.isPrefixOf label && decide (longestCode < (label.drop mark.length).length)

/-- What is written is read back, unless its code is too long. -/
theorem Label.read_write {label : List Char} (h : Label label) :
    readLabel? (writeLabel label) = if isOverlong (writeLabel label) then none else some label := by
  have hordinary := h.ordinary
  rw [writeLabel] at hordinary ⊢
  split at hordinary
  next hascii =>
    have hmark := h.uncoded hascii
    rw [if_pos hascii, readLabel?, isOverlong, hmark]
    rfl
  next hascii =>
    have hbegins : mark.isPrefixOf (mark ++ Punycode.encode label) = true := by
      rw [List.isPrefixOf_iff_prefix]
      exact List.prefix_append _ _
    have hall : isAscii (mark ++ Punycode.encode label) = true :=
      isAscii_iff.2 fun c hc => (hordinary c hc).ascii
    rw [if_neg hascii, readLabel?, isOverlong, hbegins, hall, List.drop_left]
    simp only [Bool.not_true, Bool.false_eq_true, if_false, if_true, Bool.true_and,
      decide_eq_true_eq]
    split
    next hlong => simp [ofCode?, hlong]
    next hlong =>
      exact ofCode?_eq_some.2 ⟨Nat.le_of_not_lt hlong, Punycode.decode_encode label,
        by simpa using hascii, h.dotless, normalize_of_normal h.normal, rfl⟩

/-! ### Names -/

theorem exists_of_mapM {α β : Type} {f : α → Option β} {xs : List α} {ys : List β}
    (h : xs.mapM f = some ys) {y : β} (hy : y ∈ ys) : ∃ x ∈ xs, f x = some y := by
  induction xs generalizing ys with
  | nil => cases h; cases hy
  | cons x xs ih =>
    rw [List.mapM_cons] at h
    obtain ⟨y', hy', h⟩ := Option.bind_eq_some_iff.1 h
    obtain ⟨ys', hys, h⟩ := Option.bind_eq_some_iff.1 h
    cases h
    rcases List.mem_cons.1 hy with rfl | hy
    · exact ⟨x, List.mem_cons_self, hy'⟩
    · obtain ⟨z, hz, hf⟩ := ih hys hy
      exact ⟨z, List.mem_cons_of_mem _ hz, hf⟩

theorem mapM_eq_nil {α β : Type} {f : α → Option β} {xs : List α} (h : xs.mapM f = some []) :
    xs = [] := by
  cases xs with
  | nil => rfl
  | cons x xs =>
    rw [List.mapM_cons] at h
    obtain ⟨_, -, h⟩ := Option.bind_eq_some_iff.1 h
    obtain ⟨_, -, h⟩ := Option.bind_eq_some_iff.1 h
    cases h

/-- The labels that a name in ASCII is written from. -/
theorem toAscii_eq_some {cs name : List Char} (h : toAscii cs = some name) :
    ∃ labels, labels ≠ [] ∧ (∀ l ∈ labels, Label l) ∧
      (labels.all isSound && keepsDirection labels) = true ∧
        name = List.intercalate ['.'] (labels.map writeLabel) := by
  obtain ⟨normal, hnormal, h⟩ := Option.bind_eq_some_iff.1 h
  obtain ⟨labels, hlabels, h⟩ := Option.bind_eq_some_iff.1 h
  obtain ⟨hsound, hname⟩ : (labels.all isSound && keepsDirection labels) = true ∧
      List.intercalate ['.'] (labels.map writeLabel) = name := by
    split at h
    next hsound => exact ⟨hsound, Option.some.inj h⟩
    next => cases h
  refine ⟨labels, ?_, fun l hl => ?_, hsound, hname.symm⟩
  · rintro rfl
    exact split_ne_nil normal (mapM_eq_nil hlabels)
  · obtain ⟨label, hmem, hl⟩ := exists_of_mapM hlabels hl
    obtain ⟨hn, hd⟩ := normal_labels (normal_of_normalize hnormal) label hmem
    exact label_of_readLabel hn hd hl

def hasOverlong (name : List Char) : Bool := (split '.' name).any isOverlong

theorem mapM_read_write {labels : List (List Char)} (h : ∀ l ∈ labels, Label l) :
    (labels.map writeLabel).mapM readLabel? =
      if (labels.map writeLabel).any isOverlong then none else some labels := by
  induction labels with
  | nil => rfl
  | cons l labels ih =>
    obtain ⟨hl, hlabels⟩ := List.forall_mem_cons.1 h
    rw [List.map_cons, List.mapM_cons, hl.read_write, ih hlabels, List.any_cons]
    cases isOverlong (writeLabel l) <;> cases (labels.map writeLabel).any isOverlong <;> rfl

/-- What a name in ASCII is like: all of its characters are ordinary, and it is its own form in
ASCII, unless it has a code that is not read. -/
theorem toAscii_again {cs name : List Char} (h : toAscii cs = some name) :
    (∀ c ∈ name, Ordinary c) ∧ toAscii name = if hasOverlong name then none else some name := by
  obtain ⟨labels, hne, hlabels, hsound, rfl⟩ := toAscii_eq_some h
  have hordinary : ∀ c ∈ List.intercalate ['.'] (labels.map writeLabel), Ordinary c := by
    intro c hc
    rcases mem_intercalate hc with rfl | ⟨part, hpart, hc⟩
    · exact ordinary_dot
    · obtain ⟨l, hl, rfl⟩ := List.mem_map.1 hpart
      exact (hlabels l hl).ordinary c hc
  refine ⟨hordinary, ?_⟩
  have hsplit : split '.' (List.intercalate ['.'] (labels.map writeLabel)) =
      labels.map writeLabel := by
    refine split_intercalate (by simpa using hne) fun part hpart => ?_
    obtain ⟨l, hl, rfl⟩ := List.mem_map.1 hpart
    exact (hlabels l hl).dot_notMem
  rw [toAscii, normalize_of_normal (normal_of_ordinary hordinary), hasOverlong, hsplit]
  simp only [Option.bind_eq_bind, Option.bind_some, hsplit, mapM_read_write hlabels]
  split
  · rfl
  · rw [Option.bind_some, if_pos hsound]

theorem leftward_ascii {c : Char} (h : c.toNat < 0x80) :
    (Direction.ofChar c).isRightward = false := by
  rw [Direction.ofChar, if_pos h]
  split
  · rfl
  · split <;> rfl

/-- A name in ASCII without coded labels is its own form in ASCII. -/
theorem toAscii_plain {labels : List (List Char)} (hne : labels ≠ [])
    (h : ∀ l ∈ labels, (∀ c ∈ l, Ordinary c) ∧ '.' ∉ l ∧ mark.isPrefixOf l = false) :
    toAscii (List.intercalate ['.'] labels) = some (List.intercalate ['.'] labels) := by
  have hascii (l : List Char) (hl : l ∈ labels) : isAscii l = true :=
    isAscii_iff.2 fun c hc => ((h l hl).1 c hc).ascii
  have hwrite : labels.map writeLabel = labels := by
    rw [List.map_congr_left (g := id), List.map_id]
    exact fun l hl => if_pos (hascii l hl)
  have hlabel (l : List Char) (hl : l ∈ labels) : Label l :=
    ⟨normal_of_ordinary (h l hl).1, (h l hl).2.1, fun _ => (h l hl).2.2⟩
  have hoverlong : labels.any isOverlong = false := by
    rw [List.any_eq_false]
    intro l hl
    simp [isOverlong, (h l hl).2.2]
  have hordinary : ∀ c ∈ List.intercalate ['.'] labels, Ordinary c := by
    intro c hc
    rcases mem_intercalate hc with rfl | ⟨l, hl, hc⟩
    · exact ordinary_dot
    · exact (h l hl).1 c hc
  have hread := mapM_read_write hlabel
  rw [hwrite, hoverlong, if_neg (by simp)] at hread
  have hsound : (labels.all isSound && keepsDirection labels) = true := by
    rw [Bool.and_eq_true, List.all_eq_true]
    refine ⟨fun l hl => by rw [isSound, hascii l hl, Bool.true_or], ?_⟩
    have hleft :
        ((labels.map (·.map Direction.ofChar)).any (·.any Direction.isRightward)) = false := by
      simp only [List.any_map, List.any_eq_false, Function.comp_apply, Bool.not_eq_true]
      exact fun l hl c hc => leftward_ascii ((h l hl).1 c hc).ascii
    rw [keepsDirection]
    simp only [hleft, Bool.not_false, Bool.true_or]
  rw [toAscii, normalize_of_normal (normal_of_ordinary hordinary)]
  simp only [Option.bind_eq_bind, Option.bind_some, split_intercalate hne fun l hl => (h l hl).2.1,
    hread]
  rw [if_pos hsound, hwrite]

end Intercept.Url.Domain
