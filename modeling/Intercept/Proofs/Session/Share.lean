import Intercept.Session.Table

/-!
What a table shows of one proxy: its session, and what its sessions were asked for. Sessions stand
there without their numbers, which tell how many sessions other proxies have had. What is done to
the session of one proxy shows nowhere but in its own share.
-/

namespace Intercept

namespace SessionEvent

def proxy : SessionEvent → ProxyId
  | .made _ id | .notMade id | .probed _ id _ | .handled _ id | .closed _ id => id

def unnumbered : SessionEvent → SessionEvent
  | .made _ id => .made 0 id
  | .notMade id => .notMade id
  | .probed _ id alive => .probed 0 id alive
  | .handled _ id => .handled 0 id
  | .closed _ id => .closed 0 id

end SessionEvent

structure Share (σ : Type) where
  session : Option σ
  story : List SessionEvent

namespace Share

variable {σ : Type}

def keep (x : Share σ) (s : σ) : Share σ := { x with session := x.session.map fun _ => s }

def tell (x : Share σ) (e : SessionEvent) : Share σ := { x with story := x.story ++ [e] }

def quit (x : Share σ) (id : ProxyId) : Share σ :=
  match x.session with
  | some _ => ⟨none, x.story ++ [.closed 0 id]⟩
  | none => x

theorem quit_none {x : Share σ} (h : x.session = none) (id : ProxyId) : x.quit id = x := by
  rw [quit, h]

theorem quit_quit (x : Share σ) (id : ProxyId) : (x.quit id).quit id = x.quit id := by
  refine quit_none ?_ id
  cases h : x.session <;> simp [quit, h]

end Share

namespace Table

variable {ω σ : Type} {code : SessionCode ω σ} {t : Table ω σ} {a id : ProxyId}

def session (t : Table ω σ) (a : ProxyId) : Option σ := (t.find? a).map (·.session)

def story (t : Table ω σ) (a : ProxyId) : List SessionEvent :=
  (t.events.filter (·.proxy == a)).map SessionEvent.unnumbered

def share (t : Table ω σ) (a : ProxyId) : Share σ := ⟨t.session a, t.story a⟩

theorem find?_proxy {e : Tracked σ} (h : t.find? a = some e) : e.proxy = a := by
  have hp := List.find?_some h
  simpa using hp

theorem session_none : t.session a = none ↔ a ∉ t.ids := by
  rw [session, Option.map_eq_none_iff, find?, List.find?_eq_none, ids, List.mem_map]
  constructor
  · rintro h ⟨e, he, hp⟩
    exact h e he (by simpa using hp)
  · intro h e he hp
    exact h ⟨e, he, by simpa using hp⟩

/-- The closings of a proxy's sessions, counted in its story. -/
theorem count_closedIds (t : Table ω σ) (a : ProxyId) :
    t.closedIds.count a = (t.story a).count (.closed 0 a) := by
  unfold closedIds story
  induction t.events with
  | nil => rfl
  | cons e events ih =>
    by_cases he : e.proxy = a
    · rw [List.filter_cons_of_pos (by simpa using he), List.map_cons, List.count_cons, ← ih]
      cases e with
      | closed n id =>
        obtain rfl : id = a := he
        simp [SessionEvent.unnumbered]
      | _ => simp [SessionEvent.unnumbered]
    · rw [List.filter_cons_of_neg (by simpa using he), ← ih]
      cases e with
      | closed n id =>
        have hid : id ≠ a := he
        simp [hid]
      | _ => simp

/-! Sessions -/

theorem find?_keep (t : Table ω σ) (id a : ProxyId) (s : σ) :
    (t.keep id s).find? a =
      (t.find? a).map fun e => if e.proxy = id then { e with session := s } else e := by
  have hp : ((·.proxy == a) : Tracked σ → Bool) ∘
      (fun e => if e.proxy = id then { e with session := s } else e) = (·.proxy == a) := by
    funext e
    simp only [Function.comp_apply]
    split <;> rfl
  rw [find?, keep, List.find?_map, hp, find?]

theorem session_keep_own (t : Table ω σ) (s : σ) :
    (t.keep a s).session a = (t.session a).map fun _ => s := by
  rw [session, session, find?_keep]
  cases hf : t.find? a with
  | none => rfl
  | some e => simp [find?_proxy hf]

theorem session_keep_other (t : Table ω σ) (s : σ) (h : id ≠ a) :
    (t.keep id s).session a = t.session a := by
  rw [session, session, find?_keep]
  cases hf : t.find? a with
  | none => rfl
  | some e => simp [find?_proxy hf, h.symm]

theorem session_drop_own (t : Table ω σ) : (t.drop a).session a = none := by
  rw [session_none, ids_drop, List.mem_filter]
  simp

theorem session_drop_other (t : Table ω σ) (h : id ≠ a) : (t.drop id).session a = t.session a := by
  have hp : (fun e : Tracked σ => decide ((e.proxy != id) = true ∧ (e.proxy == a) = true)) =
      (·.proxy == a) := by
    funext e
    by_cases he : e.proxy = a
    · simp [he, h.symm]
    · simp [he]
  rw [session, find?, drop, List.find?_filter, hp, session, find?]

theorem session_add_own {s : σ} (h : t.session a = none) : (t.add a s).session a = some s := by
  rw [session, Option.map_eq_none_iff, find?] at h
  rw [session, find?, add, List.find?_append, h, Option.none_or, List.find?_cons_of_pos (by simp)]
  rfl

theorem session_add_other (t : Table ω σ) (s : σ) (h : id ≠ a) :
    (t.add id s).session a = t.session a := by
  rw [session, find?, add, List.find?_append, List.find?_cons_of_neg (by simpa using h),
    List.find?_nil, Option.or_none, session, find?]

/-! Shares -/

theorem story_note (t : Table ω σ) (e : SessionEvent) (a : ProxyId) :
    (t.note e).story a = if e.proxy = a then t.story a ++ [e.unnumbered] else t.story a := by
  rw [story, note, List.filter_append, List.map_append, ← story]
  split
  · rename_i h
    rw [List.filter_cons_of_pos (by simpa using h)]
    rfl
  · rename_i h
    rw [List.filter_cons_of_neg (by simpa using h)]
    exact List.append_nil _

theorem share_note_own (t : Table ω σ) {e : SessionEvent} (h : e.proxy = a) :
    (t.note e).share a = (t.share a).tell e.unnumbered := by
  rw [share, story_note, if_pos h]
  rfl

theorem share_note_other (t : Table ω σ) {e : SessionEvent} (h : e.proxy ≠ a) :
    (t.note e).share a = t.share a := by
  rw [share, story_note, if_neg h]
  rfl

theorem share_keep_own (t : Table ω σ) (s : σ) : (t.keep a s).share a = (t.share a).keep s := by
  rw [share, session_keep_own]
  rfl

theorem share_keep_other (t : Table ω σ) (s : σ) (h : id ≠ a) :
    (t.keep id s).share a = t.share a := by
  rw [share, session_keep_other t s h]
  rfl

theorem share_add_own {s : σ} (h : t.session a = none) :
    (t.add a s).share a = ⟨some s, t.story a ++ [.made 0 a]⟩ := by
  have hstory : (t.add a s).story a = t.story a ++ [.made 0 a] :=
    (story_note t (.made t.made a) a).trans (if_pos rfl)
  rw [share, session_add_own h, hstory]

theorem share_add_other (t : Table ω σ) (s : σ) (h : id ≠ a) :
    (t.add id s).share a = t.share a := by
  have hstory : (t.add id s).story a = t.story a :=
    (story_note t (.made t.made id) a).trans (if_neg h)
  rw [share, session_add_other t s h, hstory, share]

theorem share_evict_own (e : Tracked σ) (h : e.proxy = a) :
    (t.evict code e).2.share a = ⟨none, t.story a ++ [.closed 0 a]⟩ := by
  have hstory : (t.evict code e).2.story a = t.story a ++ [.closed 0 e.proxy] :=
    (story_note (t.drop e.proxy) (.closed e.serial e.proxy) a).trans (if_pos h)
  have hsession : (t.evict code e).2.session a = none := by
    rw [← h]
    exact session_drop_own t
  rw [share, hsession, hstory, h]

theorem share_evict_other (e : Tracked σ) (h : e.proxy ≠ a) :
    (t.evict code e).2.share a = t.share a := by
  have hstory : (t.evict code e).2.story a = t.story a :=
    (story_note (t.drop e.proxy) (.closed e.serial e.proxy) a).trans (if_neg h)
  have hsession : (t.evict code e).2.session a = t.session a := session_drop_other t h
  rw [share, hsession, hstory, share]

/-! Evictions -/

/-- As long as closing never falls apart, all of these sessions go, and no others. -/
theorem share_evictAll (hclose : ∀ w s, (code.close w s).1 = true) (ids : List ProxyId)
    (t : Table ω σ) (a : ProxyId) :
    (evictAll code ids t).2.share a = if a ∈ ids then (t.share a).quit a else t.share a := by
  induction ids generalizing t with
  | nil => rfl
  | cons id ids ih =>
    have hrest (x : Share σ) (hx : x.quit a = x) :
        (if a ∈ ids then x.quit a else x) = x := by
      split
      · exact hx
      · rfl
    rw [evictAll]
    cases hf : t.find? id with
    | none =>
      rw [ih]
      by_cases hid : id = a
      · subst hid
        have hnone : (t.share id).session = none := by rw [share, session, hf]; rfl
        rw [if_pos List.mem_cons_self, hrest _ (Share.quit_none hnone id),
          Share.quit_none hnone id]
      · simp only [List.mem_cons, Ne.symm hid, false_or]
    | some e =>
      have hp : e.proxy = id := find?_proxy hf
      have hfine : (t.evict code e).1 = true := hclose t.world e.session
      have hgone : (evictAll code ids (t.evict code e).2).2.share a =
          if a ∈ ids then ((t.evict code e).2.share a).quit a else (t.evict code e).2.share a :=
        ih (t.evict code e).2
      simp only [hfine, if_true]
      rw [hgone]
      by_cases hid : id = a
      · subst hid
        have hquit : (t.share id).quit id = (t.evict code e).2.share id := by
          rw [share_evict_own e hp, Share.quit, share, session, hf]
          rfl
        rw [if_pos List.mem_cons_self, ← hquit, hrest _ (Share.quit_quit _ id)]
      · rw [share_evict_other e (hp ▸ hid)]
        simp only [List.mem_cons, Ne.symm hid, false_or]

/-- Whether a session goes is told by its own share. -/
theorem share_evictAll_ids (hclose : ∀ w s, (code.close w s).1 = true) (t : Table ω σ)
    (p : ProxyId → Bool) (a : ProxyId) :
    (evictAll code (t.ids.filter p) t).2.share a =
      if p a then (t.share a).quit a else t.share a := by
  rw [share_evictAll hclose]
  by_cases hp : p a = true
  · by_cases ha : a ∈ t.ids
    · rw [if_pos (List.mem_filter.mpr ⟨ha, hp⟩), if_pos hp]
    · rw [if_neg fun h => ha (List.mem_filter.mp h).1, if_pos hp,
        Share.quit_none (session_none.mpr ha)]
  · rw [if_neg fun h => hp (List.mem_filter.mp h).2, if_neg hp]

theorem share_prune (hclose : ∀ w s, (code.close w s).1 = true) (t : Table ω σ)
    (alive : List ProxyId) (a : ProxyId) :
    (t.prune code alive).2.share a =
      if !alive.contains a then (t.share a).quit a else t.share a :=
  share_evictAll_ids hclose t (fun id => !alive.contains id) a

theorem share_closeAll (hclose : ∀ w s, (code.close w s).1 = true) (t : Table ω σ)
    (a : ProxyId) : (t.closeAll code).2.share a = (t.share a).quit a := by
  have hids : t.ids.filter (fun _ => true) = t.ids := List.filter_eq_self.mpr fun _ _ => rfl
  have h := share_evictAll_ids hclose t (fun _ => true) a
  rwa [hids, if_pos rfl] at h

theorem share_remove (hclose : ∀ w s, (code.close w s).1 = true) (t : Table ω σ)
    (id a : ProxyId) :
    (t.remove code id).2.share a = if a = id then (t.share a).quit a else t.share a := by
  refine (share_evictAll hclose [id] t a).trans ?_
  simp only [List.mem_singleton]

theorem remove_answer (hclose : ∀ w s, (code.close w s).1 = true) (t : Table ω σ)
    (id : ProxyId) : (t.remove code id).1 = some (t.session id).isSome := by
  cases hf : t.find? id with
  | none => simp [remove, evictAll, session, hf]
  | some e =>
    have hfine : (t.evict code e).1 = true := hclose t.world e.session
    simp [remove, evictAll, session, hf, hfine]

end Table

end Intercept
