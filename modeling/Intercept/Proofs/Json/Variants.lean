import Intercept.Proofs.Json.Texts
import Mathlib.Data.List.Perm.Basic
import Mathlib.Data.List.Sort

/-!
Documents that say the same. A record takes no notice of the order of its members, nor of members
whose names it does not know; a document that is kept as it is takes no notice of order alone. Both
hold only if no name comes twice.
-/

namespace Intercept.Json

namespace Doc

/-- No object in the document has two members of one name. -/
inductive Distinct : Doc → Prop where
  | null : Distinct .null
  | bool (b : Bool) : Distinct (.bool b)
  | number (n : Number) : Distinct (.number n)
  | str (ps : List Piece) : Distinct (.str ps)
  | arr {ds : List Doc} : (∀ d ∈ ds, Distinct d) → Distinct (.arr ds)
  | obj {ms : List (List Piece × Doc)} : (ms.filterMap fun m => Piece.text? m.1).Nodup →
      (∀ m ∈ ms, Distinct m.2) → Distinct (.obj ms)

/-- The same members in another order, in whichever objects. -/
inductive Shuffled : Doc → Doc → Prop where
  | same (d : Doc) : Shuffled d d
  | trans {d e f : Doc} : Shuffled d e → Shuffled e f → Shuffled d f
  | members {ms ns : List (List Piece × Doc)} : ms.Perm ns → Shuffled (.obj ms) (.obj ns)
  | item {d e : Doc} (ds es : List Doc) : Shuffled d e →
      Shuffled (.arr (ds ++ d :: es)) (.arr (ds ++ e :: es))
  | member {d e : Doc} (k : List Piece) (ms ns : List (List Piece × Doc)) : Shuffled d e →
      Shuffled (.obj (ms ++ (k, d) :: ns)) (.obj (ms ++ (k, e) :: ns))

inductive Items (inner : String → Doc → Doc → Prop) : List String → List Doc → List Doc → Prop where
  | done (names : List String) : Items inner names [] []
  | beyond (ds : List Doc) : Items inner [] ds ds
  | next {name : String} {names : List String} {d d' : Doc} {ds ds' : List Doc} :
      inner name d d' → Items inner names ds ds' → Items inner (name :: names) (d :: ds) (d' :: ds')

/-- What becomes of a record with fields of these names: its members, each possibly changed within
as `inner` says, in any order, and among them new ones of other names. The items of a list only
change within. -/
inductive Widened (names : List String) (fits : Doc → Prop) (inner : String → Doc → Doc → Prop) :
    Doc → Doc → Prop where
  | same (d : Doc) : Widened names fits inner d d
  | obj {ms changed new ms' : List (List Piece × Doc)} :
      List.Forall₂
        (fun m m' => m'.1 = m.1 ∧ ∀ name, Piece.text? m.1 = some name → inner name m.2 m'.2)
        ms changed →
      (∀ m ∈ new, ∃ name, Piece.text? m.1 = some name ∧ name ∉ names ∧ fits m.2) →
      ms'.Perm (new ++ changed) → Widened names fits inner (.obj ms) (.obj ms')
  | arr {ds ds' : List Doc} : Items inner names ds ds' →
      Widened names fits inner (.arr ds) (.arr ds')

end Doc

/-! Lists of parts -/

theorem mapM_eq_some {α β : Type} {f : α → Option β} {xs : List α} {ys : List β} :
    xs.mapM f = some ys ↔ List.Forall₂ (fun x y => f x = some y) xs ys := by
  induction xs generalizing ys with
  | nil =>
    rw [List.forall₂_nil_left_iff]
    exact ⟨fun h => (Option.some.inj h).symm, fun h => h ▸ rfl⟩
  | cons x xs ih =>
    rw [List.forall₂_cons_left_iff, List.mapM_cons]
    constructor
    · intro h
      cases hx : f x with
      | none => rw [hx] at h; cases h
      | some y =>
        rw [hx] at h
        cases hxs : xs.mapM f with
        | none => rw [hxs] at h; cases h
        | some zs =>
          rw [hxs] at h
          obtain rfl := Option.some.inj h
          exact ⟨y, zs, rfl, ih.mp hxs, rfl⟩
    · rintro ⟨y, zs, hy, hzs, rfl⟩
      rw [hy, ih.mpr hzs]
      rfl

namespace Doc

theorem upTo_arr {levels : Nat} {ds : List Doc} {v : Value} :
    (Doc.arr ds).upTo (levels + 1) = some v ↔
      ∃ vs, List.Forall₂ (fun d v => d.upTo levels = some v) ds vs ∧ v = .arr vs := by
  have h : (Doc.arr ds).upTo (levels + 1) = (ds.mapM (upTo levels)).map .arr := by
    rw [mapM_items, upTo, depth, tree?]
    by_cases hd : docDepth ds ≤ levels
    · rw [if_pos hd, if_pos (Nat.succ_le_succ hd)]
    · rw [if_neg hd, if_neg fun h => hd (Nat.le_of_succ_le_succ h)]
      rfl
  rw [h, Option.map_eq_some_iff]
  exact exists_congr fun vs => and_congr mapM_eq_some eq_comm

def ReadAs (levels : Nat) (m : List Piece × Doc) (n : String × Value) : Prop :=
  Piece.text? m.1 = some n.1 ∧ m.2.upTo levels = some n.2

theorem memberOf_eq_some {α : Type} {out : Doc → Option α} {m : List Piece × Doc}
    {n : String × α} :
    memberOf out m = some n ↔ Piece.text? m.1 = some n.1 ∧ out m.2 = some n.2 := by
  obtain ⟨k, x⟩ := n
  rw [memberOf]
  cases Piece.text? m.1 with
  | none => simp
  | some s => cases out m.2 <;> simp

theorem upTo_obj {levels : Nat} {ms : List (List Piece × Doc)} {v : Value} :
    (Doc.obj ms).upTo (levels + 1) = some v ↔
      ∃ ns, List.Forall₂ (ReadAs levels) ms ns ∧ v = .object ns := by
  have h : (Doc.obj ms).upTo (levels + 1) = (ms.mapM (memberOf (upTo levels))).map .object := by
    rw [mapM_members, upTo, depth, tree?]
    by_cases hd : memberDepth ms ≤ levels
    · rw [if_pos hd, if_pos (Nat.succ_le_succ hd)]
    · rw [if_neg hd, if_neg fun h => hd (Nat.le_of_succ_le_succ h)]
      rfl
  rw [h, Option.map_eq_some_iff]
  refine exists_congr fun ns => and_congr (mapM_eq_some.trans ?_) eq_comm
  simp only [memberOf_eq_some]
  rfl

end Doc

/-! Members by their names -/

section Named

variable {δ : Type}

/-- What a record sees of the second members is what it sees of the first ones, up to `r`. -/
def Covers (names : List String) (r : String → δ → δ → Prop) (ns ns' : List (String × δ)) : Prop :=
  ∀ name ∈ names, ∀ x, only name ns = some x →
    ∃ y, only name ns' = some y ∧ Option.Rel (r name) x y

theorem only_eq_some {name : String} {ns : List (String × δ)} {x : Option δ} :
    only name ns = some x ↔ ns.filter (·.1 == name) = (x.map (name, ·)).toList := by
  have hmem : ∀ m ∈ ns.filter (·.1 == name), m.1 = name := fun m hm =>
    beq_iff_eq.mp (List.mem_filter.mp hm).2
  rw [only]
  cases h : ns.filter (·.1 == name) with
  | nil => cases x <;> simp
  | cons m ms =>
    have hm : m.1 = name := hmem m (h ▸ List.mem_cons_self)
    obtain ⟨k, y⟩ := m
    cases hm
    cases ms with
    | nil => cases x <;> simp
    | cons n ms => cases x <;> simp

theorem filter_above {name : String} {ns : List (String × δ)}
    (h : ∀ k ∈ ns.map Prod.fst, name < k) : ns.filter (·.1 == name) = [] := by
  refine List.filter_eq_nil_iff.mpr fun n hn heq => ?_
  exact String.ne_of_lt (h n.1 (List.mem_map_of_mem hn)) (beq_iff_eq.mp heq).symm

theorem filter_own {name : String} (x : δ) (ns : List (String × δ)) :
    ((name, x) :: ns).filter (·.1 == name) = (name, x) :: ns.filter (·.1 == name) :=
  List.filter_cons_of_pos (beq_self_eq_true name)

theorem filter_other {name k : String} (h : k ≠ name) (x : δ) (ns : List (String × δ)) :
    ((k, x) :: ns).filter (·.1 == name) = ns.filter (·.1 == name) :=
  List.filter_cons_of_neg (by rwa [beq_iff_eq])

theorem filter_insertMember {name k : String} {x : δ} {ns : List (String × δ)}
    (h : (ns.map Prod.fst).Pairwise (· < ·)) :
    (insertMember k x ns).filter (·.1 == name) =
      if k = name then [(k, x)] else ns.filter (·.1 == name) := by
  induction ns with
  | nil =>
    rw [insertMember]
    split
    · rename_i hk
      subst hk
      exact filter_own x []
    · rename_i hk
      exact filter_other hk x []
  | cons n ns ih =>
    obtain ⟨l, y⟩ := n
    obtain ⟨hl, hns⟩ := List.pairwise_cons.mp h
    rw [insertMember]
    split_ifs with hlt hk heq hk hk
    · subst hk
      have habove : ∀ m ∈ ((l, y) :: ns).map Prod.fst, k < m :=
        List.forall_mem_cons.mpr ⟨hlt, fun m hm => String.lt_trans hlt (hl m hm)⟩
      rw [filter_own, filter_above habove]
    · rw [filter_other hk]
    · subst hk heq
      rw [filter_own, filter_above hl]
    · subst heq
      rw [filter_other hk, filter_other hk]
    · subst hk
      rw [filter_other (Ne.symm heq), ih hns, if_pos rfl]
    · have hrest := ih hns
      rw [if_neg hk] at hrest
      rw [List.filter_cons, List.filter_cons, hrest]

/-- Of the members of one name the last one is kept. -/
theorem filter_sortMembers (name : String) (ns : List (String × δ)) :
    (sortMembers ns).filter (·.1 == name) = (ns.filter (·.1 == name)).getLast?.toList := by
  induction ns using List.reverseRecOn with
  | nil => rfl
  | append_singleton ns n ih =>
    obtain ⟨k, x⟩ := n
    have hins : sortMembers (ns ++ [(k, x)]) = insertMember k x (sortMembers ns) :=
      List.foldl_append
    rw [hins, filter_insertMember (sortMembers_pairwise ns), List.filter_append, ih]
    split
    · rename_i hk
      subst hk
      rw [filter_own, List.getLast?_append_of_ne_nil _ (List.cons_ne_nil _ _)]
      rfl
    · rename_i hk
      rw [filter_other hk, List.filter_nil, List.append_nil]

theorem only_sortMembers {name : String} {ns : List (String × δ)} {x : Option δ}
    (h : only name ns = some x) : only name (sortMembers ns) = some x := by
  rw [only_eq_some] at h ⊢
  rw [filter_sortMembers, h]
  cases x <;> rfl

theorem only_of_nodup {ns : List (String × δ)} (h : (ns.map Prod.fst).Nodup) (name : String) :
    ∃ x, only name ns = some x := by
  have hnames : ∀ m ∈ ns.filter (·.1 == name), m.1 = name := fun m hm =>
    beq_iff_eq.mp (List.mem_filter.mp hm).2
  have hnodup : ((ns.filter (·.1 == name)).map Prod.fst).Nodup :=
    h.sublist (List.filter_sublist.map Prod.fst)
  rw [only]
  cases hf : ns.filter (·.1 == name) with
  | nil => exact ⟨none, rfl⟩
  | cons m ms =>
    cases ms with
    | nil => exact ⟨some m.2, rfl⟩
    | cons n ms =>
      rw [hf] at hnames hnodup
      have hm : m.1 = name := hnames m List.mem_cons_self
      have hn : n.1 = name := hnames n (List.mem_cons_of_mem m List.mem_cons_self)
      refine absurd ?_ (List.nodup_cons.mp hnodup).1
      rw [hm, ← hn]
      exact List.mem_cons_self

theorem only_changed {name : String} {r : String → δ → δ → Prop} {ns changed : List (String × δ)}
    (h : List.Forall₂ (fun n n' => n'.1 = n.1 ∧ r n.1 n.2 n'.2) ns changed) {x : Option δ}
    (hx : only name ns = some x) : ∃ y, only name changed = some y ∧ Option.Rel (r name) x y := by
  have hfilter := List.rel_filter (p := (·.1 == name)) (q := (·.1 == name))
    (fun n n' hn => by simp only [hn.1]) h
  rw [only_eq_some.mp hx] at hfilter
  cases x with
  | none =>
    refine ⟨none, only_eq_some.mpr ?_, .none⟩
    exact List.forall₂_nil_left_iff.mp hfilter
  | some x =>
    obtain ⟨n, ns', ⟨hn, hr⟩, hns', heq⟩ := List.forall₂_cons_left_iff.mp hfilter
    obtain rfl := List.forall₂_nil_left_iff.mp hns'
    refine ⟨some n.2, only_eq_some.mpr ?_, .some hr⟩
    rw [heq]
    exact congrArg (fun k => [(k, n.2)]) hn

theorem only_perm {name : String} {ns ns' : List (String × δ)} (h : ns'.Perm ns) {x : Option δ}
    (hx : only name ns = some x) : only name ns' = some x := by
  rw [only_eq_some] at hx ⊢
  have hfilter := h.filter (·.1 == name)
  rw [hx] at hfilter
  cases x with
  | none => exact hfilter.eq_nil
  | some x => exact hfilter.eq_singleton

theorem only_append {name : String} {new ns : List (String × δ)}
    (h : ∀ n ∈ new, n.1 ≠ name) : only name (new ++ ns) = only name ns := by
  have hnew : new.filter (·.1 == name) = [] :=
    List.filter_eq_nil_iff.mpr fun n hn heq => h n hn (beq_iff_eq.mp heq)
  rw [only, only, List.filter_append, hnew, List.nil_append]

theorem forall₂_choose {α β : Type} {f : α → β → Prop} {p : β → Prop} {xs : List α}
    (h : ∀ x ∈ xs, ∃ y, f x y ∧ p y) : ∃ ys, List.Forall₂ f xs ys ∧ ∀ y ∈ ys, p y := by
  induction xs with
  | nil => exact ⟨[], .nil, List.forall_mem_nil _⟩
  | cons x xs ih =>
    obtain ⟨y, hy, hp⟩ := h x List.mem_cons_self
    obtain ⟨ys, hys, hps⟩ := ih fun z hz => h z (List.mem_cons_of_mem x hz)
    exact ⟨y :: ys, .cons hy hys, List.forall_mem_cons.mpr ⟨hp, hps⟩⟩

/-- What is made of two lists that are related item by item is related item by item. -/
theorem forall₂_transfer {α β : Type} {f : α → β → Prop} {rel : α → α → Prop}
    {out : β → β → Prop} (h : ∀ x x' y, rel x x' → f x y → ∃ y', f x' y' ∧ out y y')
    {xs xs' : List α} {ys : List β} (hf : List.Forall₂ f xs ys)
    (hrel : List.Forall₂ rel xs xs') :
    ∃ ys', List.Forall₂ f xs' ys' ∧ List.Forall₂ out ys ys' := by
  induction hf generalizing xs' with
  | nil =>
    obtain rfl := List.forall₂_nil_left_iff.mp hrel
    exact ⟨[], .nil, .nil⟩
  | cons hxy _ ih =>
    obtain ⟨x', xs'', hx, hxs, rfl⟩ := List.forall₂_cons_left_iff.mp hrel
    obtain ⟨y', hy', hout⟩ := h _ _ _ hx hxy
    obtain ⟨ys', hys', houts⟩ := ih hxs
    exact ⟨y' :: ys', .cons hy' hys', .cons hout houts⟩

/-- Members read one by one, changed, put in another order, and joined by others. -/
theorem covers_of_perm {α : Type} {names : List String} {r : String → δ → δ → Prop}
    {f : α → String × δ → Prop} {rel : α → α → Prop} {ms changed new ms' : List α}
    {ns : List (String × δ)} (hms : List.Forall₂ f ms ns) (hchanged : List.Forall₂ rel ms changed)
    (hrel : ∀ m m' n, rel m m' → f m n → ∃ n', f m' n' ∧ n'.1 = n.1 ∧ r n.1 n.2 n'.2)
    (hnew : ∀ m ∈ new, ∃ n, f m n ∧ n.1 ∉ names) (hperm : ms'.Perm (new ++ changed)) :
    ∃ ns', List.Forall₂ f ms' ns' ∧ Covers names r ns ns' := by
  obtain ⟨ns₁, hns₁, hout⟩ := forall₂_transfer hrel hms hchanged
  obtain ⟨new', hnew', hother⟩ := forall₂_choose hnew
  obtain ⟨ns', hns', hperm'⟩ :=
    List.perm_comp_forall₂ hperm (List.rel_append hnew' hns₁)
  refine ⟨ns', hns', fun name hname x hx => ?_⟩
  obtain ⟨y, hy, hxy⟩ := only_changed hout hx
  refine ⟨y, only_perm hperm' ?_, hxy⟩
  rw [only_append fun n hn heq => hother n hn (heq ▸ hname), hy]

end Named

namespace Doc

variable {names : List String} {fits : Doc → Prop} {inner : String → Doc → Doc → Prop} {d d' : Doc}

theorem covers_refl {δ : Type} {r : String → δ → δ → Prop} (h : ∀ name x, r name x x)
    (ns : List (String × δ)) : Covers names r ns ns := by
  intro name _ x hx
  refine ⟨x, hx, ?_⟩
  cases x with
  | none => exact .none
  | some x => exact .some (h name x)

theorem distinct_members {ms : List (List Piece × Doc)} (h : (Doc.obj ms).Distinct) :
    (ms.filterMap fun m => Piece.text? m.1).Nodup ∧ ∀ m ∈ ms, m.2.Distinct := by
  cases h with
  | obj hnames hms => exact ⟨hnames, hms⟩

theorem distinct_items {ds : List Doc} (h : (Doc.arr ds).Distinct) : ∀ d ∈ ds, d.Distinct := by
  cases h with
  | arr hds => exact hds

theorem names_read {δ : Type} {f : List Piece × Doc → String × δ → Prop}
    (hf : ∀ m n, f m n → Piece.text? m.1 = some n.1) {ms : List (List Piece × Doc)}
    {ns : List (String × δ)} (h : List.Forall₂ f ms ns) :
    (ms.filterMap fun m => Piece.text? m.1) = ns.map Prod.fst := by
  induction h with
  | nil => rfl
  | @cons m n ms ns hmn _ ih =>
    have hfirst := List.filterMap_cons_some (f := fun m : List Piece × Doc => Piece.text? m.1)
      (l := ms) (hf m n hmn)
    rw [hfirst, ih, List.map_cons]

/-- Members that were sorted show what they showed before. -/
theorem covers_sorted {δ : Type} {r : String → δ → δ → Prop} {ns ns' : List (String × δ)}
    (hnames : (ns.map Prod.fst).Nodup) (h : Covers names r ns ns') :
    Covers names r (sortMembers ns) (sortMembers ns') := by
  intro name hname x hx
  obtain ⟨x', hx'⟩ := only_of_nodup hnames name
  obtain rfl := Option.some.inj ((only_sortMembers hx').symm.trans hx)
  obtain ⟨y, hy, hxy⟩ := h name hname x' hx'
  exact ⟨y, only_sortMembers hy, hxy⟩

/-- The items that stand for fields, read one by one. -/
theorem items_read {δ : Type} {f : Doc → δ → Prop} {r : String → δ → δ → Prop}
    {ds ds' : List Doc} (h : Items inner names ds ds') {vs : List δ}
    (hvs : List.Forall₂ f ds vs)
    (hinner : ∀ name, ∀ x ∈ ds, ∀ x' v, inner name x x' → f x v → ∃ v', f x' v' ∧ r name v v') :
    ∃ vs', List.Forall₂ f ds' vs' ∧ vs'.length = vs.length ∧
      List.Forall₂ (fun n n' => n'.1 = n.1 ∧ r n.1 n.2 n'.2) (names.zip vs) (names.zip vs') := by
  induction h generalizing vs with
  | done names =>
    obtain rfl := List.forall₂_nil_left_iff.mp hvs
    refine ⟨[], .nil, rfl, ?_⟩
    rw [List.zip_nil_right]
    exact .nil
  | beyond ds => exact ⟨vs, hvs, rfl, .nil⟩
  | next hin _ ih =>
    obtain ⟨v, vs, hv, hrest, rfl⟩ := List.forall₂_cons_left_iff.mp hvs
    obtain ⟨v', hv', hr⟩ := hinner _ _ List.mem_cons_self _ _ hin hv
    obtain ⟨vs', hvs', hlen, hzip⟩ := ih hrest fun name x hx =>
      hinner name x (List.mem_cons_of_mem _ hx)
    refine ⟨v' :: vs', .cons hv' hvs', ?_, .cons ⟨rfl, hr⟩ hzip⟩
    rw [List.length_cons, List.length_cons, hlen]

theorem named_read {δ : Type} {r : String → δ → δ → Prop} {vs vs' : List δ}
    {ns : List (String × δ)} (hlen : vs'.length = vs.length)
    (h : List.Forall₂ (fun n n' => n'.1 = n.1 ∧ r n.1 n.2 n'.2) (names.zip vs) (names.zip vs'))
    (hns : Record.named? names vs = some ns) :
    ∃ ns', Record.named? names vs' = some ns' ∧ Covers names r ns ns' := by
  unfold Record.named? at hns ⊢
  rw [hlen]
  split at hns
  · rename_i hle
    obtain rfl := Option.some.inj hns
    rw [if_pos hle]
    exact ⟨_, rfl, fun name _ x hx => only_changed h hx⟩
  · cases hns

/-- A record that was widened is still read, and shows what it showed before. -/
theorem upTo_widened {levels : Nat} {r : String → Value → Value → Prop}
    (hrefl : ∀ name v, r name v v)
    (hinner : ∀ name x x' v, inner name x x' → x.Distinct → x.upTo levels = some v →
      ∃ v', x'.upTo levels = some v' ∧ r name v v')
    (hfits : ∀ x, fits x → ∃ v, x.upTo levels = some v) (hd : d.Distinct)
    (h : Widened names fits inner d d') {v : Value} (hv : d.upTo (levels + 1) = some v) :
    ∃ v', d'.upTo (levels + 1) = some v' ∧ ∀ ns, v.fields? names = some ns →
      ∃ ns', v'.fields? names = some ns' ∧ Covers names r ns ns' := by
  cases h with
  | same => exact ⟨v, hv, fun ns hns => ⟨ns, hns, covers_refl hrefl ns⟩⟩
  | @obj ms changed new ms' hchanged hnew hperm =>
    obtain ⟨hnames, hms⟩ := distinct_members hd
    obtain ⟨ns, hns, rfl⟩ := upTo_obj.mp hv
    rw [names_read (fun _ _ hmn => hmn.1) hns] at hnames
    have hread (m m' : List Piece × Doc) (n : String × Value)
        (hm : m.2.Distinct ∧ m'.1 = m.1 ∧
          ∀ name, Piece.text? m.1 = some name → inner name m.2 m'.2)
        (hn : ReadAs levels m n) : ∃ n', ReadAs levels m' n' ∧ n'.1 = n.1 ∧ r n.1 n.2 n'.2 := by
      obtain ⟨hdistinct, hname, hin⟩ := hm
      obtain ⟨v', hv', hr⟩ := hinner n.1 m.2 m'.2 n.2 (hin n.1 hn.1) hdistinct hn.2
      exact ⟨(n.1, v'), ⟨hname ▸ hn.1, hv'⟩, rfl, hr⟩
    have hjoin : ∀ m ∈ new, ∃ n, ReadAs levels m n ∧ n.1 ∉ names := by
      intro m hm
      obtain ⟨name, hname, hother, hfit⟩ := hnew m hm
      obtain ⟨w, hw⟩ := hfits m.2 hfit
      exact ⟨(name, w), ⟨hname, hw⟩, hother⟩
    obtain ⟨ns', hns', hcovers⟩ := covers_of_perm hns
      ((List.forall₂_and_left _ _).mpr ⟨hms, hchanged⟩) hread hjoin hperm
    refine ⟨.object ns', upTo_obj.mpr ⟨ns', hns', rfl⟩, fun fs hfs => ?_⟩
    obtain rfl : sortMembers ns = fs := Option.some.inj hfs
    exact ⟨_, rfl, covers_sorted hnames hcovers⟩
  | @arr ds ds' hitems =>
    obtain ⟨vs, hvs, rfl⟩ := upTo_arr.mp hv
    obtain ⟨vs', hvs', hlen, hzip⟩ := items_read (r := r) hitems hvs
      fun name x hx x' w hin hw => hinner name x x' w hin (distinct_items hd x hx) hw
    exact ⟨.arr vs', upTo_arr.mpr ⟨vs', hvs', rfl⟩, fun ns hns => named_read hlen hzip hns⟩

/-- In text a record shows what it showed before, whatever the new members are. -/
theorem fields_widened {r : String → Doc → Doc → Prop} (hrefl : ∀ name x, r name x x)
    (hinner : ∀ name x x', inner name x x' → x.Distinct → r name x x') (hd : d.Distinct)
    (h : Widened names fits inner d d') {ns : List (String × Doc)}
    (hns : d.fields? names = some ns) :
    ∃ ns', d'.fields? names = some ns' ∧ Covers names r ns ns' := by
  cases h with
  | same => exact ⟨ns, hns, covers_refl hrefl ns⟩
  | @obj ms changed new ms' hchanged hnew hperm =>
    obtain ⟨hnames, hms⟩ := distinct_members hd
    have hread (m m' : List Piece × Doc) (n : String × Doc)
        (hm : m.2.Distinct ∧ m'.1 = m.1 ∧
          ∀ name, Piece.text? m.1 = some name → inner name m.2 m'.2)
        (hn : memberOf some m = some n) :
        ∃ n', memberOf some m' = some n' ∧ n'.1 = n.1 ∧ r n.1 n.2 n'.2 := by
      obtain ⟨hdistinct, hname, hin⟩ := hm
      obtain ⟨hn, hx⟩ := memberOf_eq_some.mp hn
      refine ⟨(n.1, m'.2), memberOf_eq_some.mpr ⟨hname ▸ hn, rfl⟩, rfl, ?_⟩
      exact Option.some.inj hx ▸ hinner n.1 m.2 m'.2 (hin n.1 hn) hdistinct
    have hjoin : ∀ m ∈ new, ∃ n, memberOf some m = some n ∧ n.1 ∉ names := by
      intro m hm
      obtain ⟨name, hname, hother, -⟩ := hnew m hm
      exact ⟨(name, m.2), memberOf_eq_some.mpr ⟨hname, rfl⟩, hother⟩
    obtain ⟨ns', hns', hcovers⟩ := covers_of_perm (mapM_eq_some.mp hns)
      ((List.forall₂_and_left _ _).mpr ⟨hms, hchanged⟩) hread hjoin hperm
    exact ⟨ns', mapM_eq_some.mpr hns', hcovers⟩
  | @arr ds ds' hitems =>
    obtain ⟨es, hes, hlen, hzip⟩ := items_read (r := r) hitems
      (List.forall₂_same.mpr fun x _ => Eq.refl x)
      fun name x hx x' w hin hw => ⟨x', rfl, hw ▸ hinner name x x' hin (distinct_items hd x hx)⟩
    obtain rfl : ds' = es := List.forall₂_eq_eq_eq ▸ hes
    exact named_read hlen hzip hns

end Doc

/-! Records -/

section Records

variable {δ : Type} {read : FieldReader δ}

theorem Row.ofNamed_covers {ns ns' : List (String × δ)} : ∀ {fs : List Field},
    Covers (fs.map Field.name) (fun _ => Eq) ns ns' → ∀ {row : Row fs},
    ofNamed? read ns fs = some row → ofNamed? read ns' fs = some row
  | [], _, _, h => h
  | f :: fs, hc, (y, row), h => by
    obtain ⟨⟨x, hx, hy⟩, hrow⟩ := ofNamed_cons.mp h
    obtain ⟨x', hx', hrel⟩ := hc f.name List.mem_cons_self x hx
    obtain rfl : x = x' := by cases hrel <;> congr
    have hrest := ofNamed_covers (fun name hname => hc name (List.mem_cons_of_mem _ hname)) hrow
    exact ofNamed_cons.mpr ⟨⟨x, hx', hy⟩, hrest⟩

/-- A document that shows the fields of a record unchanged is read as the same record. -/
theorem Record.ofTree_covers {ρ : Type} {r : Record ρ} (hr : r.Proper) {v v' : Value}
    (h : ∀ ns, v.fields? r.names = some ns →
      ∃ ns', v'.fields? r.names = some ns' ∧ Covers r.names (fun _ => Eq) ns ns')
    {x : ρ} (hx : r.ofTree v = .ok x) : r.ofTree v' = .ok x := by
  obtain ⟨ns, row, hns, hrow, hx⟩ := (ofTree_eq_ok hr).mp hx
  obtain ⟨ns', hns', hcovers⟩ := h ns hns
  exact (ofTree_eq_ok hr).mpr ⟨ns', row, hns', Row.ofNamed_covers hcovers hrow, hx⟩

end Records

namespace Doc

/-! Documents kept as they are -/

def Same (d e : Doc) : Prop := ∀ levels v, d.upTo levels = some v → e.upTo levels = some v

theorem same_arr {ds es : List Doc} (h : List.Forall₂ Same ds es) : Same (.arr ds) (.arr es) := by
  intro levels v hv
  cases levels with
  | zero => cases hv
  | succ levels =>
    obtain ⟨vs, hvs, rfl⟩ := upTo_arr.mp hv
    obtain ⟨ws, hws, heq⟩ : ∃ ws, _ ∧ List.Forall₂ Eq vs ws := forall₂_transfer
      (fun x x' y hx hy => ⟨y, hx levels y hy, rfl⟩) hvs h
    obtain rfl : vs = ws := List.forall₂_eq_eq_eq ▸ heq
    exact upTo_arr.mpr ⟨vs, hws, rfl⟩

theorem same_obj {ms ns : List (List Piece × Doc)}
    (h : List.Forall₂ (fun m n => n.1 = m.1 ∧ Same m.2 n.2) ms ns) : Same (.obj ms) (.obj ns) := by
  intro levels v hv
  cases levels with
  | zero => cases hv
  | succ levels =>
    obtain ⟨vs, hvs, rfl⟩ := upTo_obj.mp hv
    obtain ⟨ws, hws, heq⟩ : ∃ ws, _ ∧ List.Forall₂ Eq vs ws := forall₂_transfer
      (fun m n y hm hy => ⟨y, ⟨hm.1 ▸ hy.1, hm.2 levels y.2 hy.2⟩, rfl⟩) hvs h
    obtain rfl : vs = ws := List.forall₂_eq_eq_eq ▸ heq
    exact upTo_obj.mpr ⟨vs, hws, rfl⟩

theorem sortMembers_of_perm {δ : Type} {ns ns' : List (String × δ)} (h : ns'.Perm ns)
    (hnames : (ns.map Prod.fst).Nodup) : sortMembers ns' = sortMembers ns := by
  have hnames' : (ns'.map Prod.fst).Nodup := (h.map Prod.fst).nodup_iff.mpr hnames
  have hperm : (sortMembers ns').Perm (sortMembers ns) :=
    ((sortMembers_perm hnames').trans h).trans (sortMembers_perm hnames).symm
  have hsorted (ms : List (String × δ)) :
      (sortMembers ms).Pairwise fun m n => m.1 < n.1 :=
    List.pairwise_map.mp (sortMembers_pairwise ms)
  exact hperm.eq_of_pairwise (fun m n _ _ hmn hnm => absurd hnm (String.lt_asymm hmn))
    (hsorted ns') (hsorted ns)

theorem same_perm {ms ns : List (List Piece × Doc)} (h : ms.Perm ns) (hd : (Doc.obj ms).Distinct) :
    Same (.obj ms) (.obj ns) := by
  intro levels v hv
  cases levels with
  | zero => cases hv
  | succ levels =>
    obtain ⟨vs, hvs, rfl⟩ := upTo_obj.mp hv
    obtain ⟨ws, hws, hperm⟩ := List.perm_comp_forall₂ h.symm hvs
    have hnames := (distinct_members hd).1
    rw [names_read (fun _ _ hmn => hmn.1) hvs] at hnames
    refine upTo_obj.mpr ⟨ws, hws, ?_⟩
    rw [Value.object, Value.object, sortMembers_of_perm hperm hnames]

theorem same_refl (d : Doc) : Same d d := fun _ _ h => h

/-- Order does not count in a document without double names. -/
theorem same_shuffled {d e : Doc} (h : Shuffled d e) (hd : d.Distinct) : e.Distinct ∧ Same d e := by
  induction h with
  | same d => exact ⟨hd, same_refl d⟩
  | trans _ _ ih ih' =>
    obtain ⟨he, hsame⟩ := ih hd
    obtain ⟨hf, hsame'⟩ := ih' he
    exact ⟨hf, fun levels v hv => hsame' levels v (hsame levels v hv)⟩
  | members hperm =>
    obtain ⟨hnames, hms⟩ := distinct_members hd
    refine ⟨.obj ((hperm.filterMap _).nodup_iff.mp hnames) fun m hm => ?_, same_perm hperm hd⟩
    exact hms m (hperm.mem_iff.mpr hm)
  | @item d e ds es _ ih =>
    have hitems := distinct_items hd
    obtain ⟨he, hsame⟩ := ih (hitems d (List.mem_append_right ds List.mem_cons_self))
    refine ⟨.arr fun x hx => ?_, same_arr ?_⟩
    · rcases List.mem_append.mp hx with hx | hx
      · exact hitems x (List.mem_append_left _ hx)
      · rcases List.mem_cons.mp hx with rfl | hx
        · exact he
        · exact hitems x (List.mem_append_right ds (List.mem_cons_of_mem d hx))
    · exact List.rel_append (List.forall₂_same.mpr fun x _ => same_refl x)
        (.cons hsame (List.forall₂_same.mpr fun x _ => same_refl x))
  | @member d e k ms ns _ ih =>
    obtain ⟨hnames, hms⟩ := distinct_members hd
    obtain ⟨he, hsame⟩ := ih (hms (k, d) (List.mem_append_right ms List.mem_cons_self))
    refine ⟨.obj ?_ fun x hx => ?_, same_obj ?_⟩
    · rw [List.filterMap_append, List.filterMap_cons] at hnames ⊢
      exact hnames
    · rcases List.mem_append.mp hx with hx | hx
      · exact hms x (List.mem_append_left _ hx)
      · rcases List.mem_cons.mp hx with rfl | hx
        · exact he
        · exact hms x (List.mem_append_right ms (List.mem_cons_of_mem _ hx))
    · exact List.rel_append (List.forall₂_same.mpr fun x _ => ⟨rfl, same_refl x.2⟩)
        (.cons ⟨rfl, hsame⟩ (List.forall₂_same.mpr fun x _ => ⟨rfl, same_refl x.2⟩))

end Doc

end Intercept.Json
