import Intercept.Json.Record
import Intercept.Proofs.Json.Reading
import Intercept.Proofs.Json.Spelling

/-!
Whatever is read off a text, the text is that of some document. Each reader comes from one place in
the text to another behind the tokens of what it took, the reader that passes values over no less
than the ones that keep them.
-/

namespace Intercept.Json

/-- These tokens stand between the one place and the other. -/
def Leads (ts : List (List Char)) (cs rest : List Char) : Prop :=
  ∀ more, Spaced more rest → Spaced (ts ++ more) cs

namespace Leads

theorem trans {ts us : List (List Char)} {cs mid rest : List Char} (h : Leads ts cs mid)
    (h' : Leads us mid rest) : Leads (ts ++ us) cs rest := by
  intro more hmore
  rw [List.append_assoc]
  exact h _ (h' more hmore)

theorem skipped (cs : List Char) : Leads [] cs (skipSpace cs) := by
  obtain ⟨bs, hbs, hcs⟩ := blanks_skipSpace cs
  intro more hmore
  rw [List.nil_append, hcs]
  cases more with
  | nil => exact List.forall_mem_append.mpr ⟨hbs, hmore⟩
  | cons t ts =>
    obtain ⟨bs', rest, hbs', hrest, heq⟩ := hmore
    exact ⟨bs ++ bs', rest, List.forall_mem_append.mpr ⟨hbs, hbs'⟩, hrest,
      by rw [heq, List.append_assoc]⟩

theorem token (t rest : List Char) : Leads [t] (t ++ rest) rest := fun _ => spaced_of_cons

theorem of_skipSpace {ts : List (List Char)} {cs rest : List Char}
    (h : Leads ts (skipSpace cs) rest) : Leads ts cs rest := (skipped cs).trans h

theorem sign {c : Char} {cs rest : List Char} (h : skipSpace cs = c :: rest) :
    Leads [[c]] cs rest := of_skipSpace (h ▸ token [c] rest)

end Leads

def Documents {α : Type} (item : List Char → Except Flaw (α × List Char)) : Prop :=
  ∀ cs x rest, item cs = .ok (x, rest) → ∃ d : Doc, Leads d.tokens cs rest

/-! Scalars -/

theorem literal_leads (d : Doc) {c : Char} {ws cs rest : List Char} (hd : d.tokens = [c :: ws])
    (h : literal ws cs = .ok rest) : ∃ d : Doc, Leads d.tokens (c :: cs) rest := by
  refine ⟨d, ?_⟩
  rw [hd, literal_spelt h]
  exact Leads.token (c :: ws) rest

theorem number_leads {negative : Bool} {cs rest : List Char}
    (h : ∃ n : Number, n.negative = negative ∧ cs = n.unsigned ++ rest) :
    ∃ d : Doc, Leads d.tokens ((if negative then ['-'] else []) ++ cs) rest := by
  obtain ⟨n, rfl, rfl⟩ := h
  refine ⟨.number n, ?_⟩
  rw [← List.append_assoc]
  exact Leads.token n.chars rest

theorem string_leads {cs rest : List Char}
    (h : ∃ ps : List Piece, '"' :: cs = Piece.quoted ps ++ rest) :
    ∃ d : Doc, Leads d.tokens ('"' :: cs) rest := by
  obtain ⟨ps, hps⟩ := h
  refine ⟨.str ps, ?_⟩
  rw [hps]
  exact Leads.token (Piece.quoted ps) rest

def Head.Leads (cs rest : List Char) : Head → Prop
  | .list => Json.Leads [['[']] cs rest
  | .object => Json.Leads [['{']] cs rest
  | _ => ∃ d : Doc, Json.Leads d.tokens cs rest

theorem head_leads {cs rest : List Char} {h : Head} (hh : head cs = .ok (h, rest)) :
    h.Leads cs rest := by
  have hscalar (d : ∃ d : Doc, Leads d.tokens (skipSpace cs) rest) :
      ∃ d : Doc, Leads d.tokens cs rest := d.imp fun _ => Leads.of_skipSpace
  unfold head at hh
  split at hh
  · cases hh
  · rename_i c ds hcs
    rw [hcs] at hscalar
    split_ifs at hh with hn ht hf hminus hdigit hquote hlist hobject
    · obtain ⟨left, hlit, heq⟩ := ok_of_bind hh
      cases heq
      exact hscalar (literal_leads .null (hn ▸ rfl) hlit)
    · obtain ⟨left, hlit, heq⟩ := ok_of_bind hh
      cases heq
      exact hscalar (literal_leads (.bool true) (ht ▸ rfl) hlit)
    · obtain ⟨left, hlit, heq⟩ := ok_of_bind hh
      cases heq
      exact hscalar (literal_leads (.bool false) (hf ▸ rfl) hlit)
    · have hleads := hscalar (hminus ▸ number_leads (skip_number_spelt true (number_skip hh).1))
      rcases (number_skip hh).2 h rfl with ⟨n, rfl⟩ | ⟨x, rfl⟩ <;> exact hleads
    · have hleads := hscalar (number_leads (skip_number_spelt false (number_skip hh).1))
      rcases (number_skip hh).2 h rfl with ⟨n, rfl⟩ | ⟨x, rfl⟩ <;> exact hleads
    · obtain ⟨⟨s, left⟩, hstr, heq⟩ := ok_of_bind hh
      cases heq
      exact hscalar (hquote ▸ string_leads (string_quoted hstr))
    · cases hh
      exact Leads.sign (hlist ▸ hcs)
    · cases hh
      exact Leads.sign (hobject ▸ hcs)

/-! Containers -/

theorem moreItems_leads {first more : Bool} {cs rest : List Char}
    (h : moreItems first cs = .ok (more, rest)) :
    (more = true ∧ Leads (separator first) cs rest) ∨
      (more = false ∧ ∃ left, rest = ']' :: left ∧ skipSpace cs = rest) := by
  unfold moreItems at h
  split at h
  · cases h
  · rename_i c ds hcs
    split_ifs at h with hclose hfirst hcomma
    · cases h
      exact .inr ⟨rfl, ds, by rw [hclose], hcs⟩
    · cases h
      exact .inl ⟨rfl, hfirst ▸ hcs ▸ Leads.skipped cs⟩
    · obtain rfl : first = false := Bool.eq_false_iff.mpr hfirst
      split at h
      · cases h
      · rename_i d es hds
        split_ifs at h
        cases h
        exact .inl ⟨rfl, (Leads.sign (hcomma ▸ hcs)).trans (hds ▸ Leads.skipped ds)⟩

theorem endItems_leads {cs rest : List Char} (h : endItems cs = .ok rest) :
    Leads [[']']] cs rest := by
  unfold endItems at h
  split at h
  · cases h
  · rename_i c ds hcs
    split_ifs at h with hclose
    · cases h
      exact Leads.sign (hclose ▸ hcs)
    · split at h <;> cases h

theorem name_leads {k : Option String} {cs rest : List Char} (h : name cs = .ok (k, rest)) :
    ∃ ps, k.isSome = true ∧ Leads [Piece.quoted ps] cs rest := by
  unfold name at h
  split at h
  · obtain ⟨⟨s, left⟩, hstr, heq⟩ := ok_of_bind h
    cases heq
    obtain ⟨ps, hps⟩ := string_quoted hstr
    exact ⟨ps, rfl, hps ▸ Leads.token (Piece.quoted ps) rest⟩
  · cases h

theorem nextName_leads {first : Bool} {k : Option String} {cs rest : List Char}
    (h : nextName first cs = .ok (k, rest)) :
    (∃ ps, k.isSome = true ∧ Leads (separator first ++ [Piece.quoted ps]) cs rest) ∨
      (k = none ∧ skipSpace cs = rest) := by
  unfold nextName at h
  split at h
  · cases h
  · rename_i c ds hcs
    split_ifs at h with hclose hfirst hcomma
    · cases h
      exact .inr ⟨rfl, hcs⟩
    · obtain ⟨ps, hk, hps⟩ := name_leads h
      exact .inl ⟨ps, hk, hfirst ▸ Leads.of_skipSpace (hcs ▸ hps)⟩
    · obtain rfl : first = false := Bool.eq_false_iff.mpr hfirst
      split at h
      · cases h
      · rename_i d es hds
        split_ifs at h
        obtain ⟨ps, hk, hps⟩ := name_leads h
        exact .inl ⟨ps, hk, (Leads.sign (hcomma ▸ hcs)).trans (Leads.of_skipSpace (hds ▸ hps))⟩

theorem colon_leads {cs rest : List Char} (h : colon cs = .ok rest) : Leads [[':']] cs rest := by
  unfold colon at h
  split at h
  · cases h
  · rename_i c ds hcs
    split_ifs at h with hcolon
    cases h
    exact Leads.sign (hcolon ▸ hcs)

theorem endMembers_leads {cs rest : List Char} (h : endMembers cs = .ok rest) :
    Leads [['}']] cs rest := by
  unfold endMembers at h
  split at h
  · cases h
  · rename_i c ds hcs
    split_ifs at h with hclose
    cases h
    exact Leads.sign (hclose ▸ hcs)

section Containers

variable {α : Type} {item : List Char → Except Flaw (α × List Char)} {cs mid rest : List Char}

theorem leads_item {first : Bool} {d : Doc} {ds : List Doc} {cs₁ cs₂ : List Char}
    (h : Leads (separator first) cs cs₁) (hd : Leads d.tokens cs₁ cs₂)
    (hds : Leads (itemTokens false ds) cs₂ rest) : Leads (itemTokens first (d :: ds)) cs rest :=
  h.trans (hd.trans hds)

theorem leads_member {first : Bool} {k : List Piece} {d : Doc} {ms : List (List Piece × Doc)}
    {cs₁ cs₂ cs₃ : List Char} (h : Leads (separator first ++ [Piece.quoted k]) cs cs₁)
    (hcolon : Leads [[':']] cs₁ cs₂) (hd : Leads d.tokens cs₂ cs₃)
    (hms : Leads (memberTokens false ms) cs₃ rest) :
    Leads (memberTokens first ((k, d) :: ms)) cs rest := by
  have htokens : memberTokens first ((k, d) :: ms) =
      (separator first ++ [Piece.quoted k]) ++
        ([[':']] ++ (d.tokens ++ memberTokens false ms)) := by
    rw [memberTokens, List.append_assoc]
    rfl
  exact htokens ▸ h.trans (hcolon.trans (hd.trans hms))

theorem items_leads (hi : Documents item) {fuel : Nat} {first : Bool} {xs : List α}
    (h : items item fuel first cs = .ok (xs, mid)) (hend : endItems mid = .ok rest) :
    ∃ ds, Leads (itemTokens first ds) cs rest := by
  induction fuel generalizing first cs xs with
  | zero => cases h
  | succ fuel ih =>
    obtain ⟨⟨more, cs₁⟩, hmore, h⟩ := ok_of_bind h
    rcases moreItems_leads hmore with ⟨rfl, hsep⟩ | ⟨rfl, left, -, hskip⟩
    · dsimp only at h
      rw [if_pos rfl] at h
      obtain ⟨⟨x, cs₂⟩, hitem, h⟩ := ok_of_bind h
      obtain ⟨⟨ys, cs₃⟩, hitems, h⟩ := ok_of_bind h
      cases h
      obtain ⟨d, hd⟩ := hi _ _ _ hitem
      obtain ⟨ds, hds⟩ := ih hitems
      exact ⟨d :: ds, leads_item hsep hd hds⟩
    · cases h
      exact ⟨[], Leads.of_skipSpace (hskip ▸ endItems_leads hend)⟩

theorem members_leads (hi : Documents item) {fuel : Nat} {first : Bool}
    {xs : List (String × α)} (h : members item fuel first cs = .ok (xs, mid))
    (hend : endMembers mid = .ok rest) : ∃ ms, Leads (memberTokens first ms) cs rest := by
  induction fuel generalizing first cs xs with
  | zero => cases h
  | succ fuel ih =>
    obtain ⟨⟨k, cs₁⟩, hname, h⟩ := ok_of_bind h
    rcases nextName_leads hname with ⟨ps, hk, hps⟩ | ⟨rfl, hskip⟩
    · obtain ⟨s, rfl⟩ := Option.isSome_iff_exists.mp hk
      obtain ⟨cs₂, hcolon, h⟩ := ok_of_bind h
      obtain ⟨⟨x, cs₃⟩, hitem, h⟩ := ok_of_bind h
      obtain ⟨⟨ys, cs₄⟩, hmembers, h⟩ := ok_of_bind h
      cases h
      obtain ⟨d, hd⟩ := hi _ _ _ hitem
      obtain ⟨ms, hms⟩ := ih hmembers
      exact ⟨(ps, d) :: ms, leads_member hps (colon_leads hcolon) hd hms⟩
    · cases h
      exact ⟨[], Leads.of_skipSpace (hskip ▸ endMembers_leads hend)⟩

theorem wholeList_leads (hi : Documents item) {xs : List α}
    (h : wholeList item cs = .ok (xs, rest)) : ∃ ds, Leads (itemTokens true ds) cs rest := by
  obtain ⟨⟨ys, mid⟩, hitems, h⟩ := ok_of_bind h
  obtain ⟨left, hend, h⟩ := ok_of_bind h
  cases h
  exact items_leads hi hitems hend

theorem wholeObject_leads (hi : Documents item) {xs : List (String × α)}
    (h : wholeObject item cs = .ok (xs, rest)) : ∃ ms, Leads (memberTokens true ms) cs rest := by
  obtain ⟨⟨ys, mid⟩, hmembers, h⟩ := ok_of_bind h
  obtain ⟨left, hend, h⟩ := ok_of_bind h
  cases h
  exact members_leads hi hmembers hend

end Containers

theorem leads_arr {ds : List Doc} {cs mid rest : List Char} (h : Leads [['[']] cs mid)
    (hds : Leads (itemTokens true ds) mid rest) : ∃ d : Doc, Leads d.tokens cs rest :=
  ⟨.arr ds, h.trans hds⟩

theorem leads_obj {ms : List (List Piece × Doc)} {cs mid rest : List Char}
    (h : Leads [['{']] cs mid) (hms : Leads (memberTokens true ms) mid rest) :
    ∃ d : Doc, Leads d.tokens cs rest :=
  ⟨.obj ms, h.trans hms⟩

theorem value_documents (levels : Nat) : Documents (value levels) := by
  intro cs v rest h
  induction levels using Nat.strongRecOn generalizing cs v rest with
  | ind levels ih =>
    rw [value.eq_def] at h
    cases hh : head cs with
    | error e =>
      rw [hh] at h
      cases h
    | ok r =>
      obtain ⟨x, mid⟩ := r
      rw [hh] at h
      have hleads := head_leads hh
      cases x with
      | list =>
        cases levels with
        | zero => cases h
        | succ levels =>
          obtain ⟨⟨xs, left⟩, hlist, h⟩ := ok_of_bind h
          cases h
          obtain ⟨ds, hds⟩ := wholeList_leads (ih levels (Nat.lt_succ_self levels)) hlist
          exact leads_arr hleads hds
      | object =>
        cases levels with
        | zero => cases h
        | succ levels =>
          obtain ⟨⟨xs, left⟩, hobject, h⟩ := ok_of_bind h
          cases h
          obtain ⟨ms, hms⟩ := wholeObject_leads (ih levels (Nat.lt_succ_self levels)) hobject
          exact leads_obj hleads hms
      | _ =>
        cases h
        exact hleads

/-! Values that are passed over -/

namespace Skip

/-- What is still to come of a container, its bracket included. -/
inductive Inner (first : Bool) : Frame → List (List Char) → Prop where
  | list (ds : List Doc) : Inner first .list (itemTokens first ds)
  | object (ms : List (List Piece × Doc)) : Inner first .object (memberTokens first ms)

/-- What is still to come of all open containers, the innermost first. -/
inductive Closing : List Frame → List (List Char) → Prop where
  | done : Closing [] []
  | next {frame : Frame} {outer : List Frame} {ts us : List (List Char)} :
      Inner false frame ts → Closing outer us → Closing (frame :: outer) (ts ++ us)

/-- What is left of the text is what the state still has to pass over. -/
def Passable (s : State) (rest : List Char) : Prop :=
  ∃ ts, Closing s.frames ts ∧
    if s.behind then Leads ts s.rest rest
    else ∃ d : Doc, Leads (d.tokens ++ ts) s.rest rest

theorem member_leads {cs rest : List Char} (h : member cs = .ok rest) :
    ∃ ps, Leads [Piece.quoted ps, [':']] cs rest := by
  unfold member at h
  split at h
  · cases h
  · rename_i cs₁ hcs
    obtain ⟨cs₂, hstr, h⟩ := ok_of_bind h
    obtain ⟨ps, hps⟩ := skip_string_quoted hstr
    split at h
    · cases h
    · rename_i c ds hds
      split_ifs at h with hcolon
      cases h
      refine ⟨ps, Leads.of_skipSpace ?_⟩
      rw [hcs, hps]
      exact (Leads.token (Piece.quoted ps) cs₂).trans (Leads.sign (hcolon ▸ hds))
  · cases h

variable {frame : Frame} {outer frames : List Frame} {cs mid rest : List Char} {s : State}

/-- The next value of a container, and all that comes behind it. -/
theorem next_passable {first : Bool} (hsep : Leads (separator first) cs mid)
    (h : next frame outer mid = .ok s) (hs : Passable s rest) :
    ∃ ts us, Inner first frame ts ∧ Closing outer us ∧ Leads (ts ++ us) cs rest := by
  cases frame with
  | list =>
    cases h
    obtain ⟨ts, hclosing, d, hd⟩ := hs
    cases hclosing with
    | next hts hus =>
      cases hts with
      | list ds =>
        refine ⟨_, _, .list (d :: ds), hus, ?_⟩
        rw [itemTokens, List.append_assoc, List.append_assoc]
        exact hsep.trans hd
  | object =>
    obtain ⟨cs₁, hmember, h⟩ := ok_of_bind h
    cases h
    obtain ⟨ps, hps⟩ := member_leads hmember
    obtain ⟨ts, hclosing, d, hd⟩ := hs
    cases hclosing with
    | next hts hus =>
      cases hts with
      | object ms =>
        refine ⟨_, _, .object ((ps, d) :: ms), hus, ?_⟩
        rw [memberTokens, List.append_assoc, List.cons_append, List.cons_append,
          List.append_assoc]
        exact hsep.trans (hps.trans hd)

theorem close_passable {c : Char} {first : Bool} (hc : c = frame.closer)
    (hcs : skipSpace cs = c :: mid) (hs : Passable ⟨true, outer, mid⟩ rest) :
    ∃ ts us, Inner first frame ts ∧ Closing outer us ∧ Leads (ts ++ us) cs rest := by
  obtain ⟨us, hus, hleads⟩ := hs
  have hclose := (Leads.sign hcs).trans hleads
  subst hc
  cases frame with
  | list => exact ⟨_, us, .list [], hus, hclose⟩
  | object => exact ⟨_, us, .object [], hus, hclose⟩

theorem leave_passable (h : leave frame outer cs = .ok s) (hs : Passable s rest) :
    Passable ⟨true, frame :: outer, cs⟩ rest := by
  have hinner : ∃ ts us, Inner false frame ts ∧ Closing outer us ∧ Leads (ts ++ us) cs rest := by
    unfold leave at h
    split at h
    · cases h
    · rename_i c ds hcs
      split_ifs at h with hcomma hclose
      · exact next_passable (Leads.sign (hcomma ▸ hcs)) h hs
      · cases h
        exact close_passable hclose hcs hs
  obtain ⟨ts, us, hts, hus, hleads⟩ := hinner
  exact ⟨ts ++ us, .next hts hus, hleads⟩

theorem enter_passable (h : enter frame outer cs = .ok s) (hs : Passable s rest) :
    ∃ ts us, Inner true frame ts ∧ Closing outer us ∧ Leads (ts ++ us) cs rest := by
  unfold enter at h
  split at h
  · cases h
  · rename_i c ds hcs
    split_ifs at h with hclose
    · cases h
      exact close_passable hclose hcs hs
    · exact next_passable (hcs ▸ Leads.skipped cs) h hs

/-- Before a value everything is passed over, the value and what stands behind it. -/
theorem before_passable (h : before frames cs = .ok s) (hs : Passable s rest) :
    Passable ⟨false, frames, cs⟩ rest := by
  have hscalar (mid : List Char) (hd : ∃ d : Doc, Leads d.tokens (skipSpace cs) mid)
      (hs : Passable ⟨true, frames, mid⟩ rest) : Passable ⟨false, frames, cs⟩ rest := by
    obtain ⟨ts, hts, hleads⟩ := hs
    obtain ⟨d, hd⟩ := hd
    exact ⟨ts, hts, d, (Leads.of_skipSpace hd).trans hleads⟩
  unfold before at h
  split at h
  · cases h
  · rename_i c ds hcs
    rw [hcs] at hscalar
    split_ifs at h with hlist hobject hn ht hf hminus hdigit hquote
    · obtain ⟨ts, us, hts, hus, hleads⟩ := enter_passable h hs
      cases hts with
      | list ds => exact ⟨us, hus, .arr ds, (Leads.sign (hlist ▸ hcs)).trans hleads⟩
    · obtain ⟨ts, us, hts, hus, hleads⟩ := enter_passable h hs
      cases hts with
      | object ms => exact ⟨us, hus, .obj ms, (Leads.sign (hobject ▸ hcs)).trans hleads⟩
    · obtain ⟨mid, hlit, heq⟩ := ok_of_bind h
      cases heq
      exact hscalar mid (literal_leads .null (hn ▸ rfl) hlit) hs
    · obtain ⟨mid, hlit, heq⟩ := ok_of_bind h
      cases heq
      exact hscalar mid (literal_leads (.bool true) (ht ▸ rfl) hlit) hs
    · obtain ⟨mid, hlit, heq⟩ := ok_of_bind h
      cases heq
      exact hscalar mid (literal_leads (.bool false) (hf ▸ rfl) hlit) hs
    · obtain ⟨mid, hnumber, heq⟩ := ok_of_bind h
      cases heq
      exact hscalar mid (hminus ▸ number_leads (skip_number_spelt true hnumber)) hs
    · obtain ⟨mid, hnumber, heq⟩ := ok_of_bind h
      cases heq
      exact hscalar mid (number_leads (skip_number_spelt false hnumber)) hs
    · obtain ⟨mid, hstring, heq⟩ := ok_of_bind h
      cases heq
      exact hscalar mid (hquote ▸ string_leads (skip_string_quoted hstring)) hs
    · cases h

theorem run_passable {fuel : Nat} (h : run fuel s = .ok rest) : Passable s rest := by
  induction fuel generalizing s with
  | zero => cases h
  | succ fuel ih =>
    obtain ⟨behind, frames, cs⟩ := s
    unfold run at h
    split_ifs at h with hbehind
    · subst hbehind
      split at h
      · cases h
        exact ⟨[], .done, fun more hmore => hmore⟩
      · split at h
        · rename_i s hs
          exact leave_passable hs (ih h)
        · cases h
    · obtain rfl : behind = false := Bool.eq_false_iff.mpr hbehind
      split at h
      · rename_i s hs
        exact before_passable hs (ih h)
      · cases h

end Skip

theorem skipValue_leads {cs rest : List Char} (h : skipValue cs = .ok rest) :
    ∃ d : Doc, Leads d.tokens cs rest := by
  obtain ⟨_, ⟨⟩, d, hd⟩ := Skip.run_passable h
  exact ⟨d, (List.append_nil d.tokens) ▸ hd⟩

/-! Records -/

theorem scalar_documents {α : Type} {ofHead : Head → Except Flaw α} {toTree : α → Value}
    (hlist : (ofHead .list).toOption = none) (hobject : (ofHead .object).toOption = none)
    (levels : Nat) : Documents ((Cell.scalar ofHead toTree).ofText levels) := by
  intro cs x rest h
  obtain ⟨⟨y, mid⟩, hh, h⟩ := ok_of_bind h
  obtain ⟨z, hz, h⟩ := ok_of_bind h
  cases h
  have hleads := head_leads hh
  cases y with
  | list =>
    rw [hz] at hlist
    cases hlist
  | object =>
    rw [hz] at hobject
    cases hobject
  | _ => exact hleads

/-- A field was read, or the member was passed over. -/
theorem fill_ok {τ : Type} {name : String} {read : {α : Type} → Cell α → Except Flaw (α × τ)}
    {skip : Except Flaw τ} {t : τ} : ∀ {fs : List Field} {d d' : Draft fs},
    Draft.fill name read skip fs d = .ok (d', t) →
      (∃ f ∈ fs, ∃ y, read f.cell = .ok (y, t)) ∨ skip = .ok t
  | [], _, _, h => by
    obtain ⟨left, hskip, h⟩ := ok_of_bind h
    cases h
    exact .inr hskip
  | f :: fs, (x, d), d', h => by
    rw [Draft.fill] at h
    split_ifs at h
    · obtain ⟨⟨y, left⟩, hread, h⟩ := ok_of_bind h
      cases h
      exact .inl ⟨f, List.mem_cons_self, y, hread⟩
    · obtain ⟨⟨e, left⟩, hfill, h⟩ := ok_of_bind h
      cases h
      exact (fill_ok hfill).imp_left fun ⟨g, hg, hread⟩ => ⟨g, List.mem_cons_of_mem f hg, hread⟩

namespace Record

variable {ρ : Type} {r : Record ρ} {levels : Nat}

theorem draftOfText_leads (hcells : ∀ f ∈ r.fields, Documents (f.cell.ofText levels))
    {fuel : Nat} {first : Bool} {d d' : Draft r.fields} {cs mid rest : List Char}
    (h : r.draftOfText levels fuel first d cs = .ok (d', mid))
    (hend : endMembers mid = .ok rest) : ∃ ms, Leads (memberTokens first ms) cs rest := by
  induction fuel generalizing first d cs with
  | zero => cases h
  | succ fuel ih =>
    obtain ⟨⟨k, cs₁⟩, hname, h⟩ := ok_of_bind h
    rcases nextName_leads hname with ⟨ps, hk, hps⟩ | ⟨rfl, hskip⟩
    · obtain ⟨s, rfl⟩ := Option.isSome_iff_exists.mp hk
      obtain ⟨⟨e, cs₂⟩, hfill, h⟩ := ok_of_bind h
      obtain ⟨ms, hms⟩ := ih h
      obtain ⟨x, cs₃, hcolon, hx⟩ : ∃ (x : Doc) (cs₃ : List Char), colon cs₁ = .ok cs₃ ∧
          Leads x.tokens cs₃ cs₂ := by
        rcases fill_ok hfill with ⟨f, hf, y, hread⟩ | hskip
        · obtain ⟨cs₃, hcolon, hread⟩ := ok_of_bind hread
          obtain ⟨x, hx⟩ := hcells f hf _ _ _ hread
          exact ⟨x, cs₃, hcolon, hx⟩
        · obtain ⟨cs₃, hcolon, hskip⟩ := ok_of_bind hskip
          obtain ⟨x, hx⟩ := skipValue_leads hskip
          exact ⟨x, cs₃, hcolon, hx⟩
      exact ⟨(ps, x) :: ms, leads_member hps (colon_leads hcolon) hx hms⟩
    · cases h
      exact ⟨[], Leads.of_skipSpace (hskip ▸ endMembers_leads hend)⟩

/-- At the closing bracket no more items are read. -/
theorem ofItems_closed {record : String} {width : Nat} {fs : List Field} {found : Nat}
    {row : Row fs} {left mid : List Char}
    (h : Row.ofItems record width levels found fs (']' :: left) = .ok (row, mid)) :
    mid = ']' :: left := by
  induction fs generalizing found with
  | nil =>
    cases h
    rfl
  | cons f fs ih =>
    have hmore : moreItems (found == 0) (']' :: left) = .ok (false, ']' :: left) := rfl
    rw [Row.ofItems, hmore, ok_bind] at h
    dsimp only at h
    rw [if_neg Bool.false_ne_true] at h
    split at h
    · obtain ⟨⟨row, cs⟩, hrow, h⟩ := ok_of_bind h
      cases h
      exact ih hrow
    · cases h

theorem ofItems_leads {record : String} {width : Nat} {fs : List Field}
    (hcells : ∀ f ∈ fs, Documents (f.cell.ofText levels)) {found : Nat} {row : Row fs}
    {cs mid rest : List Char} (h : Row.ofItems record width levels found fs cs = .ok (row, mid))
    (hend : endItems mid = .ok rest) : ∃ ds, Leads (itemTokens (found == 0) ds) cs rest := by
  induction fs generalizing found cs with
  | nil =>
    cases h
    exact ⟨[], endItems_leads hend⟩
  | cons f fs ih =>
    have hrest := fun g hg => hcells g (List.mem_cons_of_mem f hg)
    rw [Row.ofItems] at h
    obtain ⟨⟨more, cs₁⟩, hmore, h⟩ := ok_of_bind h
    rcases moreItems_leads hmore with ⟨rfl, hsep⟩ | ⟨rfl, left, hleft, hskip⟩
    · dsimp only at h
      rw [if_pos rfl] at h
      obtain ⟨⟨x, cs₂⟩, hitem, h⟩ := ok_of_bind h
      obtain ⟨⟨row, cs₃⟩, hrow, h⟩ := ok_of_bind h
      cases h
      obtain ⟨d, hd⟩ := hcells f List.mem_cons_self _ _ _ hitem
      obtain ⟨ds, hds⟩ := ih hrest hrow
      exact ⟨d :: ds, leads_item hsep hd hds⟩
    · dsimp only at h
      rw [if_neg Bool.false_ne_true] at h
      split at h
      · obtain ⟨⟨row, cs₂⟩, hrow, h⟩ := ok_of_bind h
        cases h
        subst hleft
        obtain rfl := ofItems_closed hrow
        exact ⟨[], Leads.of_skipSpace (hskip ▸ endItems_leads hend)⟩
      · cases h

theorem ofText_documents (hcells : ∀ f ∈ r.fields, ∀ levels, Documents (f.cell.ofText levels))
    (levels : Nat) : Documents (r.ofText levels) := by
  intro cs x rest h
  unfold ofText at h
  split at h
  · cases h
  · rename_i mid hh
    split at h
    · cases h
    · obtain ⟨⟨row, cs₁⟩, hitems, h⟩ := ok_of_bind h
      obtain ⟨cs₂, hend, h⟩ := ok_of_bind h
      cases h
      obtain ⟨ds, hds⟩ := ofItems_leads (fun f hf => hcells f hf _) hitems hend
      exact leads_arr (head_leads hh) hds
  · rename_i mid hh
    split at h
    · cases h
    · obtain ⟨⟨d, cs₁⟩, hdraft, h⟩ := ok_of_bind h
      obtain ⟨row, -, h⟩ := ok_of_bind h
      obtain ⟨cs₂, hend, h⟩ := ok_of_bind h
      cases h
      obtain ⟨ms, hms⟩ := draftOfText_leads (fun f hf => hcells f hf _) hdraft hend
      exact leads_obj (head_leads hh) hms
  · cases h

end Record

/-- A whole text from which something was read is that of a document. -/
theorem written_of_ofText {α : Type} {item : List Char → Except Flaw (α × List Char)}
    (hi : Documents item) {s : String} {x : α} (h : ofText item s = .ok x) :
    ∃ d : Doc, d.WrittenAs s := by
  obtain ⟨⟨y, rest⟩, hitem, h⟩ := ok_of_bind h
  obtain ⟨d, hd⟩ := hi _ _ _ hitem
  dsimp only at h
  split_ifs at h with hrest
  have hblanks : Blanks rest := List.dropWhile_eq_nil_iff.mp (List.isEmpty_iff.mp hrest)
  have hspaced := hd [] hblanks
  rw [List.append_nil] at hspaced
  exact ⟨d, hspaced⟩

end Intercept.Json
