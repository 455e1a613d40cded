import Intercept.Proofs.Session.Events

/-!
The life of sessions in a table. However session code fails or falls apart, and wherever that cuts
an operation short, the sessions in the table are those that its events leave alive, and the events
are in order.
-/

namespace Intercept

/-- What can be done with a table. A packet comes with the handle of the channel it came in on. -/
inductive Operation where
  | dispatch (h : Handle) (p : Packet)
  | prune (alive : List ProxyId)
  | reconcile (report : Except Failure (List ProxyStatus))
  | remove (id : ProxyId)
  | closeAll

namespace Table

variable {ω σ : Type}

def perform (code : SessionCode ω σ) (t : Table ω σ) : Operation → Table ω σ
  | .dispatch h p => ((t.dispatch code p).run h).1.2
  | .prune alive => (t.prune code alive).2
  | .reconcile report => (t.reconcile code report).2
  | .remove id => (t.remove code id).2
  | .closeAll => (t.closeAll code).2

/-- The table after these operations; there are no sessions at the start. -/
def after (code : SessionCode ω σ) (world : ω) (ops : List Operation) : Table ω σ :=
  ops.foldl (perform code) { world := world }

end Table

open SessionLog

def Tracked.key {σ : Type} (e : Tracked σ) : Key := (e.serial, e.proxy)

structure Table.Sound {ω σ : Type} (t : Table ω σ) : Prop where
  orderly : Orderly t.events
  live : live t.events = t.tracked.map Tracked.key
  fresh : ∀ k ∈ makings t.events, k.1 < t.made

namespace Table

variable {ω σ : Type} {code : SessionCode ω σ} {t : Table ω σ}

theorem liveIds_eq (ht : t.Sound) : liveIds t.events = t.ids := by
  rw [liveIds, ht.live, List.map_map]
  rfl

theorem mem_live (ht : t.Sound) {k : Key} (hk : k ∈ t.tracked.map Tracked.key) :
    k ∈ live t.events := by
  rw [ht.live]
  exact hk

theorem not_mem_liveIds (ht : t.Sound) {id : ProxyId} (hid : id ∉ t.ids) :
    id ∉ liveIds t.events := by
  rw [liveIds_eq ht]
  exact hid

theorem ids_nodup (ht : t.Sound) : t.ids.Nodup := liveIds_eq ht ▸ liveIds_nodup ht.orderly

theorem sound_empty (world : ω) : ({ world := world } : Table ω σ).Sound :=
  ⟨.nil, rfl, fun _ hk => nomatch hk⟩

theorem sound_world (ht : t.Sound) (w : ω) : ({ t with world := w } : Table ω σ).Sound :=
  ⟨ht.orderly, ht.live, ht.fresh⟩

theorem keys_keep (t : Table ω σ) (id : ProxyId) (s : σ) :
    (t.keep id s).tracked.map Tracked.key = t.tracked.map Tracked.key := by
  simp only [keep, List.map_map]
  congr 1
  funext e
  simp only [Function.comp_apply]
  split <;> rfl

theorem sound_keep (ht : t.Sound) (id : ProxyId) (s : σ) : (t.keep id s).Sound :=
  ⟨ht.orderly, by rw [keys_keep]; exact ht.live, ht.fresh⟩

/-- Asking session code for what leaves it alive as it was. -/
theorem sound_note (ht : t.Sound) {e : SessionEvent} (he : InOrder t.events e)
    (hl : ∀ l, liveStep l e = l) (hm : makings [e] = []) : (t.note e).Sound := by
  refine ⟨.snoc ht.orderly he, ?_, ?_⟩
  · simp only [note, live_snoc, hl]
    exact ht.live
  · simp only [note, makings_append, hm, List.append_nil]
    exact ht.fresh

theorem sound_add (ht : t.Sound) {id : ProxyId} (hid : id ∉ t.ids) (s : σ) :
    (t.add id s).Sound := by
  have hn : t.made ∉ (makings t.events).map Prod.fst := by
    intro hmem
    obtain ⟨k, hk, hkt⟩ := List.mem_map.mp hmem
    exact absurd (ht.fresh k hk) (by omega)
  refine ⟨.snoc ht.orderly ⟨not_mem_liveIds ht hid, hn⟩, ?_, ?_⟩
  · simp only [add, live_snoc, liveStep, List.map_append, ht.live]
    rfl
  · intro k hk
    simp only [add, makings_append, List.mem_append] at hk
    simp only [add]
    rcases hk with hk | hk
    · exact Nat.lt_succ_of_lt (ht.fresh k hk)
    · obtain rfl : k = (t.made, id) := by simpa [makings] using hk
      exact Nat.lt_succ_self t.made

/-- As a proxy has one session, the session that goes is the only one that is dropped. -/
theorem keys_drop {l : List (Tracked σ)} (hn : (l.map (·.proxy)).Nodup) {k : Key}
    (hk : k ∈ l.map Tracked.key) :
    (l.filter (·.proxy != k.2)).map Tracked.key = (l.map Tracked.key).erase k := by
  induction l with
  | nil => cases hk
  | cons a l ih =>
    rw [List.map_cons, List.nodup_cons] at hn
    obtain ⟨ha, hn⟩ := hn
    by_cases hak : a.key = k
    · have hp : a.proxy = k.2 := congrArg Prod.snd hak
      have hl : l.filter (·.proxy != k.2) = l := by
        rw [List.filter_eq_self]
        intro b hb
        simp only [bne_iff_ne, ne_eq]
        intro hbk
        exact ha (List.mem_map.mpr ⟨b, hb, hbk.trans hp.symm⟩)
      rw [List.filter_cons_of_neg (by simp [hp]), hl, List.map_cons, hak, List.erase_cons_head]
    · have hk' : k ∈ l.map Tracked.key := by
        rw [List.map_cons, List.mem_cons] at hk
        exact hk.resolve_left fun h => hak h.symm
      have hp : a.proxy ≠ k.2 := by
        intro hp
        obtain ⟨b, hb, hbk⟩ := List.mem_map.mp hk'
        exact ha (List.mem_map.mpr ⟨b, hb, (congrArg Prod.snd hbk).trans hp.symm⟩)
      rw [List.filter_cons_of_pos (by simp [hp]), List.map_cons, List.map_cons, ih hn hk',
        List.erase_cons_tail (by simpa using hak)]

theorem sound_evict (ht : t.Sound) {e : Tracked σ} (he : e.key ∈ t.tracked.map Tracked.key) :
    (t.evict code e).2.Sound := by
  have hl := mem_live ht he
  refine ⟨.snoc ht.orderly hl, ?_, ?_⟩
  · simp only [evict, note, drop, live_snoc, liveStep, ht.live]
    exact (keys_drop (ids_nodup ht) he).symm
  · intro k hk
    simp only [evict, note, drop, makings_append] at hk ⊢
    rw [show makings [SessionEvent.closed e.serial e.proxy] = [] from rfl,
      List.append_nil] at hk
    exact ht.fresh k hk

theorem sound_giveUp (ht : t.Sound) {e : Tracked σ} (he : e.key ∈ t.tracked.map Tracked.key) :
    (t.giveUp code e).2.Sound :=
  sound_evict ht he

/-- A session answers the question whether it is alive, and keeps its place. -/
theorem sound_probed (ht : t.Sound) {e : Tracked σ} (he : e.key ∈ t.tracked.map Tracked.key)
    (alive : Option Bool) (s : σ) :
    ((t.keep e.proxy s).note (.probed e.serial e.proxy alive)).Sound :=
  sound_note (sound_keep ht e.proxy s) (mem_live ht he) (fun _ => rfl) rfl

/-- A session handles a packet right after it was found alive. -/
theorem sound_handled (ht : t.Sound) {e : Tracked σ} (he : e.key ∈ t.tracked.map Tracked.key)
    (hl : t.events.getLast? = some (.probed e.serial e.proxy (some true))) (s : σ) :
    ((t.keep e.proxy s).note (.handled e.serial e.proxy)).Sound :=
  sound_note (sound_keep ht e.proxy s) ⟨mem_live ht he, hl⟩ (fun _ => rfl) rfl

theorem sound_serve (ht : t.Sound) {e : Tracked σ} (he : e.key ∈ t.tracked.map Tracked.key)
    (p : Packet) (h : Handle) : ((t.serve code e p).run h).1.2.Sound := by
  rcases hq : code.isAlive t.world e.session with ⟨alive, s, world⟩
  have h1 := sound_world (sound_probed ht he alive s) world
  have he1 : e.key ∈ ((t.keep e.proxy s).note (.probed e.serial e.proxy alive)).tracked.map
      Tracked.key := by
    rw [note, keys_keep]
    exact he
  simp only [serve, hq]
  cases alive with
  | none => exact h1
  | some b =>
    cases b with
    | false => exact sound_giveUp h1 he1
    | true =>
      rw [Script.run_bind]
      -- what the session makes of the packet, and what it leaves of itself and of the world
      generalize (Script.run (code.handle world s p) h).1 = r
      obtain ⟨outcome, s', world'⟩ := r
      have h2 := sound_world (sound_handled h1 he1 (by simp [note]) s') world'
      have he2 := he1
      rw [← keys_keep _ e.proxy s'] at he2
      cases outcome with
      | ok verdict => exact h2
      | failed | collapsed => exact sound_giveUp h2 he2

theorem find?_key {id : ProxyId} {e : Tracked σ} (h : t.find? id = some e) :
    e.key ∈ t.tracked.map Tracked.key :=
  List.mem_map_of_mem (List.mem_of_find?_eq_some h)

theorem not_mem_ids {id : ProxyId} (h : t.find? id = none) : id ∉ t.ids := by
  intro hid
  obtain ⟨e, he, hp⟩ := List.mem_map.mp hid
  rw [find?, List.find?_eq_none] at h
  exact h e he (by simpa using hp)

theorem sound_dispatch (ht : t.Sound) (p : Packet) (h : Handle) :
    ((t.dispatch code p).run h).1.2.Sound := by
  unfold dispatch
  cases hf : t.find? p.proxy with
  | some e => exact sound_serve ht (find?_key hf) p h
  | none =>
    simp only [Script.run_bind]
    generalize (Script.run (code.create t.world p) h).1 = r
    obtain ⟨outcome, world⟩ := r
    have hid := not_mem_ids hf
    have hn := not_mem_liveIds ht hid
    cases outcome with
    | ok s =>
      refine sound_serve (sound_add (sound_world ht world) hid s) ?_ p _
      simp [add, Tracked.key]
    | failed | collapsed => exact sound_note (sound_world ht world) hn (fun _ => rfl) rfl

theorem sound_evictAll (ht : t.Sound) (ids : List ProxyId) : (evictAll code ids t).2.Sound := by
  induction ids generalizing t with
  | nil => exact ht
  | cons id ids ih =>
    unfold evictAll
    cases hf : t.find? id with
    | none => exact ih ht
    | some e =>
      have he : (t.evict code e).2.Sound := sound_evict ht (find?_key hf)
      simp only
      split
      · exact ih he
      · exact he

theorem sound_perform (ht : t.Sound) (op : Operation) : (t.perform code op).Sound := by
  cases op with
  | dispatch h p => exact sound_dispatch ht p h
  | prune alive => exact sound_evictAll ht _
  | reconcile report =>
    cases report with
    | error f => exact ht
    | ok proxies => exact sound_evictAll ht _
  | remove id => exact sound_evictAll ht [id]
  | closeAll => exact sound_evictAll ht _

theorem sound_after (code : SessionCode ω σ) (world : ω) (ops : List Operation) :
    (after code world ops).Sound := by
  induction ops using List.reverseRecOn with
  | nil => exact sound_empty world
  | append_singleton ops op ih =>
    rw [after, List.foldl_append]
    exact sound_perform ih op

theorem madeIds_eq (t : Table ω σ) : t.madeIds = (makings t.events).map Prod.snd := by
  rw [madeIds, makings, List.map_filterMap]
  congr 1
  funext e
  cases e <;> rfl

theorem closedIds_eq (t : Table ω σ) : t.closedIds = (closings t.events).map Prod.snd := by
  rw [closedIds, closings, List.map_filterMap]
  congr 1
  funext e
  cases e <;> rfl

theorem madeIds_coe (ht : t.Sound) : (t.madeIds : Multiset ProxyId) = t.closedIds + t.ids := by
  have h := congrArg (Multiset.map Prod.snd) (makings_eq ht.orderly)
  rw [Multiset.map_add, Multiset.map_coe, Multiset.map_coe, Multiset.map_coe] at h
  rw [madeIds_eq, closedIds_eq, ← liveIds_eq ht]
  exact h

end Table

end Intercept
