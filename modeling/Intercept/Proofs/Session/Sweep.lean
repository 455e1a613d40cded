import Intercept.Proofs.Session.Eviction

/-!
A bulk eviction, exactly. It closes the sessions it is meant for, one after the other, up to the
first whose closing falls apart; that one is out of the table as well, and those behind it stay. If
no closing falls apart all of them go, in whatever order they are taken, and what is left are the
sessions of the proxies that were spared.
-/

namespace Intercept

/-- How far closing some sessions came: those that are closed, whether the last of them is closed
well too, and the world afterwards. -/
structure Sweep (ω σ : Type) where
  gone : List (Tracked σ) := []
  fine : Bool := true
  world : ω

variable {ω σ : Type}

def sweep (code : SessionCode ω σ) (w : ω) : List (Tracked σ) → Sweep ω σ
  | [] => { world := w }
  | e :: es =>
    if (code.close w e.session).1 then
      let s := sweep code (code.close w e.session).2 es
      { s with gone := e :: s.gone }
    else ⟨[e], false, (code.close w e.session).2⟩

def Tracked.closing (e : Tracked σ) : SessionEvent := .closed e.serial e.proxy

variable {code : SessionCode ω σ} {w : ω} {e : Tracked σ} {es : List (Tracked σ)}

theorem sweep_fine (h : (code.close w e.session).1 = true) :
    sweep code w (e :: es) = { sweep code (code.close w e.session).2 es with
      gone := e :: (sweep code (code.close w e.session).2 es).gone } := by
  rw [sweep, if_pos h]

theorem sweep_cut (h : (code.close w e.session).1 = false) :
    sweep code w (e :: es) = ⟨[e], false, (code.close w e.session).2⟩ := by
  rw [sweep, if_neg (by simp [h])]

theorem sweep_spec (code : SessionCode ω σ) (w : ω) (es : List (Tracked σ)) :
    ((sweep code w es).fine = true ∧ (sweep code w es).gone = es) ∨
      ∃ front e back, es = front ++ e :: back ∧ (sweep code w es).gone = front ++ [e] ∧
        (sweep code w es).fine = false ∧ (sweep code w front).fine = true ∧
        (code.close (sweep code w front).world e.session).1 = false := by
  induction es generalizing w with
  | nil => exact .inl ⟨rfl, rfl⟩
  | cons e es ih =>
    cases hc : (code.close w e.session).1 with
    | false =>
      rw [sweep_cut hc]
      exact .inr ⟨[], e, es, rfl, rfl, rfl, rfl, hc⟩
    | true =>
      rw [sweep_fine hc]
      rcases ih (code.close w e.session).2 with
        ⟨hfine, hgone⟩ | ⟨front, x, back, rfl, hgone, hcut, hfine, hx⟩
      · exact .inl ⟨hfine, by rw [hgone]⟩
      · refine .inr ⟨e :: front, x, back, rfl, by rw [hgone]; rfl, hcut, ?_, ?_⟩
        · rw [sweep_fine hc]
          exact hfine
        · rw [sweep_fine hc]
          exact hx

theorem sweep_all (h : ∀ e ∈ es, ∀ w, (code.close w e.session).1 = true) (w : ω) :
    (sweep code w es).fine = true ∧ (sweep code w es).gone = es := by
  rcases sweep_spec code w es with hall | ⟨front, e, back, rfl, -, -, -, he⟩
  · exact hall
  · rw [h e (by simp)] at he
    cases he

namespace Table

variable {t : Table ω σ} {alive : List ProxyId}

def without (t : Table ω σ) (gone : List (Tracked σ)) (w : ω) : Table ω σ :=
  { t with
    world := w
    tracked := t.tracked.filter (·.proxy ∉ gone.map (·.proxy))
    events := t.events ++ gone.map Tracked.closing }

def stale (t : Table ω σ) (alive : List ProxyId) : List (Tracked σ) :=
  t.tracked.filter (·.proxy ∉ alive)

theorem find?_tracked (hn : t.ids.Nodup) {e : Tracked σ} (he : e ∈ t.tracked) :
    t.find? e.proxy = some e := by
  cases hf : t.find? e.proxy with
  | none => exact absurd (List.mem_map_of_mem he) (not_mem_ids hf)
  | some x =>
    have hx : x.proxy = e.proxy := by simpa using List.find?_some hf
    rw [List.inj_on_of_nodup_map hn (List.mem_of_find?_eq_some hf) he hx]

theorem evict_eq (code : SessionCode ω σ) (t : Table ω σ) (e : Tracked σ) :
    t.evict code e =
      ((code.close t.world e.session).1, t.without [e] (code.close t.world e.session).2) := by
  simp only [evict, without, drop, note, List.map_cons, List.map_nil, List.mem_singleton]
  congr 2
  refine List.filter_congr fun x _ => ?_
  simp only [bne, beq_eq_decide, decide_not]

theorem without_without (t : Table ω σ) (gone more : List (Tracked σ)) (v w : ω) :
    (t.without gone v).without more w = t.without (gone ++ more) w := by
  simp only [without, List.map_append, List.append_assoc, List.filter_filter]
  congr 1
  refine List.filter_congr fun x _ => ?_
  simp only [List.mem_append, not_or, Bool.decide_and, Bool.and_comm]

theorem ids_without (t : Table ω σ) (gone : List (Tracked σ)) (w : ω) :
    (t.without gone w).ids.Sublist t.ids :=
  List.filter_sublist.map _

theorem evictAll_eq (hn : t.ids.Nodup) (hes : ∀ e ∈ es, e ∈ t.tracked)
    (hdistinct : (es.map (·.proxy)).Nodup) :
    evictAll code (es.map (·.proxy)) t =
      (if (sweep code t.world es).fine then some (sweep code t.world es).gone.length else none,
        t.without (sweep code t.world es).gone (sweep code t.world es).world) := by
  induction es generalizing t with
  | nil => simp [evictAll, sweep, without]
  | cons e es ih =>
    obtain ⟨he, hes⟩ := List.forall_mem_cons.mp hes
    rw [List.map_cons, List.nodup_cons] at hdistinct
    obtain ⟨hother, hdistinct⟩ := hdistinct
    rw [List.map_cons, evictAll, find?_tracked hn he]
    simp only [evict_eq]
    cases hc : (code.close t.world e.session).1 with
    | false => simp [sweep_cut hc]
    | true =>
      have hn' : (t.without [e] (code.close t.world e.session).2).ids.Nodup :=
        hn.sublist (ids_without t [e] _)
      have hes' : ∀ x ∈ es, x ∈ (t.without [e] (code.close t.world e.session).2).tracked := by
        intro x hx
        have hne : x.proxy ≠ e.proxy := fun h => hother (h ▸ List.mem_map_of_mem hx)
        simp [without, hes x hx, hne]
      rw [if_pos rfl, ih hn' hes' hdistinct, sweep_fine hc]
      have hworld : (t.without [e] (code.close t.world e.session).2).world =
          (code.close t.world e.session).2 := rfl
      simp only [hworld, without_without, List.singleton_append, List.length_cons]
      cases (sweep code (code.close t.world e.session).2 es).fine <;> rfl

theorem ids_stale (t : Table ω σ) (alive : List ProxyId) :
    t.ids.filter (!alive.contains ·) = (t.stale alive).map (·.proxy) := by
  rw [ids, stale, List.filter_map]
  congr 1
  refine List.filter_congr fun x _ => ?_
  simp

theorem mem_stale : e ∈ t.stale alive ↔ e ∈ t.tracked ∧ e.proxy ∉ alive := by
  rw [stale, List.mem_filter, decide_eq_true_iff]

theorem stale_distinct (hn : t.ids.Nodup) (alive : List ProxyId) :
    ((t.stale alive).map (·.proxy)).Nodup := by
  rw [← ids_stale]
  exact hn.filter _

/-- What a prune comes to, whatever closing does. -/
theorem prune_eq (hn : t.ids.Nodup) (alive : List ProxyId) :
    t.prune code alive =
      (if (sweep code t.world (t.stale alive)).fine
        then some (sweep code t.world (t.stale alive)).gone.length else none,
        t.without (sweep code t.world (t.stale alive)).gone
          (sweep code t.world (t.stale alive)).world) := by
  rw [prune, ids_stale]
  exact evictAll_eq hn (fun e he => (mem_stale.mp he).1) (stale_distinct hn alive)

/-- Closing every session is a prune that spares no proxy. -/
theorem closeAll_eq (code : SessionCode ω σ) (t : Table ω σ) :
    t.closeAll code = t.prune code [] := by
  simp [closeAll, prune]

/-! If no closing falls apart -/

def Steady (code : SessionCode ω σ) (t : Table ω σ) : Prop :=
  ∀ e ∈ t.tracked, ∀ w, (code.close w e.session).1 = true

theorem without_steady (h : t.Steady code) (gone : List (Tracked σ)) (w : ω) :
    (t.without gone w).Steady code :=
  fun e he => h e (List.mem_of_mem_filter he)

theorem evictAll_steady (hn : t.ids.Nodup) (h : t.Steady code) (hes : ∀ e ∈ es, e ∈ t.tracked)
    (hdistinct : (es.map (·.proxy)).Nodup) :
    ∃ w, evictAll code (es.map (·.proxy)) t = (some es.length, t.without es w) := by
  obtain ⟨hfine, hgone⟩ := sweep_all (fun e he => h e (hes e he)) t.world
  rw [evictAll_eq hn hes hdistinct, hfine, hgone]
  exact ⟨_, rfl⟩

theorem prune_steady (hn : t.ids.Nodup) (h : t.Steady code) (alive : List ProxyId) :
    ∃ w, t.prune code alive = (some (t.stale alive).length, t.without (t.stale alive) w) := by
  rw [prune, ids_stale]
  exact evictAll_steady hn h (fun e he => (mem_stale.mp he).1) (stale_distinct hn alive)

/-- What is left are the sessions that were spared. -/
theorem tracked_without_stale (alive : List ProxyId) (w : ω) :
    (t.without (t.stale alive) w).tracked = t.tracked.filter (·.proxy ∈ alive) := by
  refine List.filter_congr fun x hx => ?_
  rw [decide_eq_decide]
  constructor
  · intro hout
    by_contra hx'
    exact hout (List.mem_map_of_mem (mem_stale.mpr ⟨hx, hx'⟩))
  · intro hin hout
    obtain ⟨e, he, hp⟩ := List.mem_map.mp hout
    exact (mem_stale.mp he).2 (hp ▸ hin)

theorem prune_congr {A B : List ProxyId} (h : ∀ id, id ∈ A ↔ id ∈ B) (t : Table ω σ) :
    t.prune code A = t.prune code B := by
  rw [prune, prune]
  congr 1
  refine List.filter_congr fun id _ => ?_
  simp [h id]

/-- Two prunes take out what one does that spares the proxies which both spare. -/
theorem stale_stale (t : Table ω σ) (A B : List ProxyId) (w : ω) :
    (t.stale A ++ (t.without (t.stale A) w).stale B).Perm (t.stale (A ∩ B)) := by
  have hfirst : t.stale A = (t.stale (A ∩ B)).filter (·.proxy ∉ A) := by
    rw [stale, stale, List.filter_filter]
    refine List.filter_congr fun x _ => ?_
    by_cases hA : x.proxy ∈ A <;> simp [hA]
  have hsecond : (t.without (t.stale A) w).stale B =
      (t.stale (A ∩ B)).filter (fun e => !decide (e.proxy ∉ A)) := by
    rw [stale, tracked_without_stale, stale, List.filter_filter, List.filter_filter]
    refine List.filter_congr fun x _ => ?_
    by_cases hA : x.proxy ∈ A <;> simp [hA]
  rw [hsecond, hfirst]
  exact List.filter_append_perm _ _

theorem prune_left (hn : t.ids.Nodup) (h : t.Steady code) (alive : List ProxyId) :
    (t.prune code alive).2.tracked = t.tracked.filter (·.proxy ∈ alive) ∧
      (t.prune code alive).2.ids.Nodup ∧ (t.prune code alive).2.Steady code := by
  obtain ⟨w, hr⟩ := prune_steady hn h alive
  rw [hr]
  exact ⟨tracked_without_stale alive w, hn.sublist (ids_without t _ w), without_steady h _ w⟩

/-- The order in which sessions are taken shows in nothing but the order of the closes. -/
theorem evictAll_perm (hn : t.ids.Nodup) (h : t.Steady code) (hes : es.Perm (t.stale alive)) :
    (evictAll code (es.map (·.proxy)) t).2.tracked = (t.prune code alive).2.tracked ∧
      (evictAll code (es.map (·.proxy)) t).2.events.Perm (t.prune code alive).2.events ∧
      (evictAll code (es.map (·.proxy)) t).1 = (t.prune code alive).1 := by
  have hin : ∀ e ∈ es, e ∈ t.tracked := fun e he => (mem_stale.mp (hes.subset he)).1
  have hdistinct : (es.map (·.proxy)).Nodup :=
    (hes.map _).nodup_iff.mpr (stale_distinct hn alive)
  obtain ⟨v, hs⟩ := evictAll_steady hn h hin hdistinct
  obtain ⟨w, hr⟩ := prune_steady hn h alive
  rw [hs, hr, hes.length_eq]
  refine ⟨List.filter_congr fun x _ => ?_, (hes.map _).append_left _, rfl⟩
  rw [decide_eq_decide, (hes.map _).mem_iff]

/-- Two prunes make one that spares what both spare. -/
theorem prune_prune (hn : t.ids.Nodup) (h : t.Steady code) (A B : List ProxyId) :
    ((t.prune code A).2.prune code B).2.tracked = (t.prune code (A ∩ B)).2.tracked ∧
      ((t.prune code A).2.prune code B).2.events.Perm (t.prune code (A ∩ B)).2.events ∧
      ∃ m n, (t.prune code A).1 = some m ∧ ((t.prune code A).2.prune code B).1 = some n ∧
        (t.prune code (A ∩ B)).1 = some (m + n) := by
  obtain ⟨hleft, hn', h'⟩ := prune_left hn h A
  obtain ⟨w, hr⟩ := prune_steady hn h A
  obtain ⟨v, hs⟩ := prune_steady hn' h' B
  obtain ⟨u, hboth⟩ := prune_steady hn h (A ∩ B)
  have hperm : (t.stale A ++ (t.without (t.stale A) w).stale B).Perm (t.stale (A ∩ B)) :=
    stale_stale t A B w
  refine ⟨?_, ?_, ?_⟩
  · rw [hs, tracked_without_stale, hleft, hboth, tracked_without_stale, List.filter_filter]
    refine List.filter_congr fun x _ => ?_
    simp [Bool.and_comm]
  · rw [hs, hboth, hr, without_without]
    exact (hperm.map _).append_left _
  · rw [hs, hboth, hr]
    refine ⟨_, _, rfl, rfl, ?_⟩
    rw [← List.length_append, hperm.length_eq]

/-- The same prune again finds nothing. -/
theorem prune_again (hn : t.ids.Nodup) (h : t.Steady code) (alive : List ProxyId) :
    (t.prune code alive).2.prune code alive = (some 0, (t.prune code alive).2) := by
  obtain ⟨hleft, hn', -⟩ := prune_left hn h alive
  have hnone : (t.prune code alive).2.stale alive = [] := by
    rw [stale, hleft, List.filter_filter, List.filter_eq_nil_iff]
    simp
  rw [prune_eq hn', hnone]
  simp [sweep, without]

/-- A pass is a prune for the proxies that some entry reports alive. -/
theorem reconcile_ok {proxies : List ProxyStatus}
    (halive : ∀ id, id ∈ alive ↔ ∃ x ∈ proxies, x.alive = true ∧ x.id = id) (t : Table ω σ) :
    t.reconcile code (.ok proxies) = (.ok (t.prune code alive).1, (t.prune code alive).2) := by
  have hsame : t.prune code (aliveIds proxies) = t.prune code alive := by
    refine prune_congr (fun id => ?_) t
    rw [halive, aliveIds, List.mem_map]
    simp only [List.mem_filter, and_assoc]
  simp only [reconcile, hsame]

/-- For every table and every set of proxies, as long as closing its sessions does not fall apart:
what a prune leaves are the sessions of these proxies, as they were; each other one is closed once,
and they are counted. The order in which they are taken is of no account. Two prunes make one that
spares what both spare, and the same prune again finds nothing. A pass is the prune for the proxies
that some entry of the answer reports alive; without an answer nothing happens. -/
theorem prune_law (hn : t.ids.Nodup) (hclose : t.Steady code) (A B : List ProxyId) :
    let gone := t.tracked.filter (·.proxy ∉ A)
    let r := t.prune code A
    (r.2.tracked = t.tracked.filter (·.proxy ∈ A) ∧
      r.2.events = t.events ++ gone.map Tracked.closing ∧ r.1 = some gone.length) ∧
    (∀ es : List (Tracked σ), es.Perm gone →
      let s := evictAll code (es.map (·.proxy)) t
      s.2.tracked = r.2.tracked ∧ s.2.events.Perm r.2.events ∧ s.1 = r.1) ∧
    (let s := r.2.prune code B
      let both := t.prune code (A ∩ B)
      s.2.tracked = both.2.tracked ∧ s.2.events.Perm both.2.events ∧
        ∃ m n, r.1 = some m ∧ s.1 = some n ∧ both.1 = some (m + n)) ∧
    r.2.prune code A = (some 0, r.2) ∧
    (∀ proxies : List ProxyStatus, (∀ id, id ∈ A ↔ ∃ x ∈ proxies, x.alive = true ∧ x.id = id) →
      t.reconcile code (.ok proxies) = (.ok r.1, r.2)) ∧
    ∀ f, t.reconcile code (.error f) = (.error f, t) := by
  intro gone r
  obtain ⟨w, hr⟩ : ∃ w, r = (some gone.length, t.without gone w) := prune_steady hn hclose A
  refine ⟨⟨(prune_left hn hclose A).1, by rw [hr]; rfl, by rw [hr]⟩, ?_, ?_, ?_, ?_, fun f => rfl⟩
  · exact fun es hes => evictAll_perm hn hclose hes
  · exact prune_prune hn hclose A B
  · exact prune_again hn hclose A
  · exact fun proxies halive => reconcile_ok halive t

/-- Three sessions, of which an answer reports one alive, and dead as well. -/
theorem prune_law_three :
    let code : SessionCode Unit Unit :=
      ⟨fun _ _ => .done (.ok (), ()), fun _ _ => (some true, (), ()),
        fun _ _ _ => .done (.ok true, (), ()), fun _ _ => (true, ())⟩
    let t : Table Unit Unit :=
      { world := (), tracked := [⟨0, 1, ()⟩, ⟨1, 2, ()⟩, ⟨2, 3, ()⟩], made := 3 }
    let listed : List ProxyStatus :=
      [⟨2, false, "", "", 0, 0⟩, ⟨4, true, "", "", 0, 0⟩, ⟨2, true, "", "", 0, 0⟩]
    t.ids.Nodup ∧ t.Steady code ∧
      (t.prune code [2, 4]).1 = some 2 ∧ (t.prune code [2, 4]).2.closedIds = [1, 3] ∧
      (evictAll code [3, 1] t).2.events.Perm (t.prune code [2, 4]).2.events ∧
      ((t.prune code [2, 4]).2.prune code [3]).2.tracked =
        (t.prune code ([2, 4] ∩ [3])).2.tracked ∧
      t.reconcile code (.ok listed) = (.ok (t.prune code [2, 4]).1, (t.prune code [2, 4]).2) := by
  intro code t listed
  have hn : t.ids.Nodup := by decide
  have hclose : t.Steady code := fun _ _ _ => rfl
  obtain ⟨⟨-, hevents, hcount⟩, horder, ⟨hboth, -⟩, -, hpass, -⟩ :=
    prune_law hn hclose [2, 4] [3]
  have hgone : t.tracked.filter (·.proxy ∉ [2, 4]) = [⟨0, 1, ()⟩, ⟨2, 3, ()⟩] := rfl
  have hback : [⟨2, 3, ()⟩, ⟨0, 1, ()⟩].Perm (t.tracked.filter (·.proxy ∉ [2, 4])) := by
    rw [hgone]
    exact List.Perm.swap _ _ []
  refine ⟨hn, hclose, hcount, by decide, (horder _ hback).2.1, hboth, hpass listed fun id => ?_⟩
  constructor
  · intro hid
    rcases List.mem_pair.mp hid with rfl | rfl
    · exact ⟨⟨2, true, "", "", 0, 0⟩, by simp [listed], rfl, rfl⟩
    · exact ⟨⟨4, true, "", "", 0, 0⟩, by simp [listed], rfl, rfl⟩
  · rintro ⟨x, hx, halive, rfl⟩
    have hall : ∀ y ∈ listed, y.alive = true → y.id ∈ ([2, 4] : List ProxyId) := by decide
    exact hall x hx halive

end Table

end Intercept
