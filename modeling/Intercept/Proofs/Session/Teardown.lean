import Intercept.Proofs.Session.Lifecycle

/-!
Every session is closed exactly once. The events of a table are what session code was asked to do:
code that writes this down, and otherwise does the same, cannot be told apart by a table and writes
down what the table notes.
-/

namespace Intercept

open SessionLog

variable {ω σ : Type}

structure Record (ω : Type) where
  world : ω
  made : Nat := 0
  log : List SessionEvent := []

/-- The same code. A session knows under which number and for which proxy it was made. -/
def SessionCode.recorded (code : SessionCode ω σ) : SessionCode (Record ω) (Key × σ) where
  create r p := do
    let (outcome, world) ← code.create r.world p
    return match outcome with
      | .ok s =>
        (.ok ((r.made, p.proxy), s), ⟨world, r.made + 1, r.log ++ [.made r.made p.proxy]⟩)
      | .failed => (.failed, ⟨world, r.made, r.log ++ [.notMade p.proxy]⟩)
      | .collapsed => (.collapsed, ⟨world, r.made, r.log ++ [.notMade p.proxy]⟩)
  isAlive r s :=
    let (alive, s', world) := code.isAlive r.world s.2
    (alive, (s.1, s'), ⟨world, r.made, r.log ++ [.probed s.1.1 s.1.2 alive]⟩)
  handle r s p := do
    let (outcome, s', world) ← code.handle r.world s.2 p
    return (outcome, (s.1, s'), ⟨world, r.made, r.log ++ [.handled s.1.1 s.1.2]⟩)
  close r s :=
    let (fine, world) := code.close r.world s.2
    (fine, ⟨world, r.made, r.log ++ [.closed s.1.1 s.1.2]⟩)

def Tracked.recorded (e : Tracked σ) : Tracked (Key × σ) := ⟨e.serial, e.proxy, (e.key, e.session)⟩

namespace Table

variable {code : SessionCode ω σ} {t : Table ω σ}

def recorded (t : Table ω σ) : Table (Record ω) (Key × σ) where
  world := ⟨t.world, t.made, t.events⟩
  tracked := t.tracked.map Tracked.recorded
  made := t.made
  events := t.events

theorem ids_recorded (t : Table ω σ) : t.recorded.ids = t.ids := by
  simp only [ids, recorded, List.map_map]
  rfl

theorem find?_recorded (t : Table ω σ) (id : ProxyId) :
    t.recorded.find? id = (t.find? id).map Tracked.recorded := by
  simp only [find?, recorded, List.find?_map]
  rfl

theorem key_eq (ht : t.Sound) {e x : Tracked σ} (he : e.key ∈ t.tracked.map Tracked.key)
    (hx : x ∈ t.tracked) (hp : x.proxy = e.proxy) : x.key = e.key := by
  obtain ⟨y, hy, hye⟩ := List.mem_map.mp he
  have hyp : y.proxy = e.proxy := congrArg Prod.snd hye
  rw [← hye, List.inj_on_of_nodup_map (ids_nodup ht) hx hy (hp.trans hyp.symm)]

/-- A proxy has one session, so the state that is put in its place is that session's own. -/
theorem keep_recorded (ht : t.Sound) {e : Tracked σ} (he : e.key ∈ t.tracked.map Tracked.key)
    (s : σ) :
    (t.recorded.keep e.proxy (e.key, s)).tracked = (t.keep e.proxy s).tracked.map .recorded := by
  simp only [keep, recorded, List.map_map]
  refine List.map_congr_left fun x hx => ?_
  simp only [Function.comp_apply]
  by_cases hp : x.proxy = e.proxy
  · rw [if_pos hp, ← key_eq ht he hx hp]
    exact if_pos hp
  · rw [if_neg hp]
    exact if_neg hp

/-- What a session is asked with its state kept, and noted on both sides. -/
theorem asked_recorded (ht : t.Sound) {e : Tracked σ} (he : e.key ∈ t.tracked.map Tracked.key)
    (s : σ) (x : SessionEvent) (world : ω) :
    ({ (t.recorded.keep e.proxy (e.key, s)).note x with
        world := ⟨world, t.made, t.events ++ [x]⟩ } : Table (Record ω) (Key × σ)) =
      ({ (t.keep e.proxy s).note x with world := world } : Table ω σ).recorded := by
  simp only [note, keep_recorded ht he s]
  rfl

theorem evict_recorded (t : Table ω σ) (e : Tracked σ) :
    t.recorded.evict code.recorded e.recorded =
      ((t.evict code e).1, (t.evict code e).2.recorded) := by
  simp only [evict, recorded, drop, note, List.filter_map]
  rfl

theorem giveUp_recorded (t : Table ω σ) (e : Tracked σ) :
    t.recorded.giveUp code.recorded e.recorded =
      ((t.giveUp code e).1, (t.giveUp code e).2.recorded) := by
  simp only [giveUp, evict_recorded]

def lifted {α : Type} (r : (α × Table ω σ) × Handle) : (α × Table (Record ω) (Key × σ)) × Handle :=
  ((r.1.1, r.1.2.recorded), r.2)

def hand (code : SessionCode ω σ) (t : Table ω σ) (e : Tracked σ) (s : σ) (p : Packet) :
    Script (Option (Option Bool) × Table ω σ) := do
  let (outcome, s, world) ← code.handle t.world s p
  let t := { (t.keep e.proxy s).note (.handled e.serial e.proxy) with world := world }
  match outcome with
  | .ok verdict => return (some (some verdict), t)
  | _ => return t.giveUp code { e with session := s }

theorem hand_recorded (ht : t.Sound) {e : Tracked σ} (he : e.key ∈ t.tracked.map Tracked.key)
    (s : σ) (p : Packet) (h : Handle) :
    (t.recorded.hand code.recorded e.recorded (e.key, s) p).run h =
      lifted ((t.hand code e s p).run h) := by
  rcases hr : (code.handle t.world s p).run h with ⟨⟨outcome, s', world⟩, h'⟩
  have hr' : (code.recorded.handle t.recorded.world (e.key, s) p).run h =
      ((outcome, (e.key, s'), ⟨world, t.made, t.events ++ [.handled e.serial e.proxy]⟩), h') := by
    simp only [SessionCode.recorded, recorded, Script.run_bind, hr]
    rfl
  have hasked := asked_recorded ht he s' (.handled e.serial e.proxy) world
  have hproxy : e.recorded.proxy = e.proxy := rfl
  have hserial : e.recorded.serial = e.serial := rfl
  simp only [hand, Script.run_bind, hr, hr', hproxy, hserial, hasked]
  cases outcome with
  | ok verdict => rfl
  | failed | collapsed => exact congrArg (·, h') (giveUp_recorded _ { e with session := s' })

theorem serve_recorded (ht : t.Sound) {e : Tracked σ} (he : e.key ∈ t.tracked.map Tracked.key)
    (p : Packet) (h : Handle) :
    (t.recorded.serve code.recorded e.recorded p).run h = lifted ((t.serve code e p).run h) := by
  rcases hq : code.isAlive t.world e.session with ⟨alive, s, world⟩
  have hq' : code.recorded.isAlive t.recorded.world e.recorded.session =
      (alive, (e.key, s), ⟨world, t.made, t.events ++ [.probed e.serial e.proxy alive]⟩) := by
    simp only [SessionCode.recorded, recorded, Tracked.recorded, hq]
    rfl
  have hasked := asked_recorded ht he s (.probed e.serial e.proxy alive) world
  have hproxy : e.recorded.proxy = e.proxy := rfl
  have hserial : e.recorded.serial = e.serial := rfl
  simp only [serve, hq, hq', hproxy, hserial, hasked]
  cases alive with
  | none => rfl
  | some b =>
    cases b with
    | false => exact congrArg (·, h) (giveUp_recorded _ { e with session := s })
    | true =>
      refine hand_recorded (sound_world (sound_probed ht he (some true) s) world) ?_ s p h
      rw [note, keys_keep]
      exact he

theorem add_recorded (t : Table ω σ) (world : ω) (id : ProxyId) (s : σ) :
    (⟨⟨world, t.made + 1, t.events ++ [.made t.made id]⟩, t.recorded.tracked, t.recorded.made,
        t.recorded.events⟩ : Table (Record ω) (Key × σ)).add id ((t.made, id), s) =
      (({ t with world := world } : Table ω σ).add id s).recorded := by
  simp only [add, recorded, List.map_append]
  rfl

theorem dispatch_recorded (ht : t.Sound) (p : Packet) (h : Handle) :
    (t.recorded.dispatch code.recorded p).run h = lifted ((t.dispatch code p).run h) := by
  unfold dispatch
  rw [find?_recorded]
  cases hf : t.find? p.proxy with
  | some e => exact serve_recorded ht (find?_key hf) p h
  | none =>
    rcases hr : (code.create t.world p).run h with ⟨⟨outcome, world⟩, h'⟩
    have hr' : (code.recorded.create t.recorded.world p).run h = (match outcome with
        | .ok s => (.ok ((t.made, p.proxy), s),
          ⟨world, t.made + 1, t.events ++ [.made t.made p.proxy]⟩)
        | .failed => (.failed, ⟨world, t.made, t.events ++ [.notMade p.proxy]⟩)
        | .collapsed => (.collapsed, ⟨world, t.made, t.events ++ [.notMade p.proxy]⟩), h') := by
      simp only [SessionCode.recorded, recorded, Script.run_bind, hr]
      cases outcome <;> rfl
    simp only [Option.map_none, Script.run_bind, hr, hr']
    cases outcome with
    | ok s =>
      have hs := sound_add (sound_world ht world) (not_mem_ids hf) s
      simp only [add_recorded]
      refine serve_recorded (e := ⟨t.made, p.proxy, s⟩) hs ?_ p h'
      simp [add, Tracked.key]
    | failed | collapsed => rfl

theorem evictAll_recorded (t : Table ω σ) (ids : List ProxyId) :
    evictAll code.recorded ids t.recorded =
      ((evictAll code ids t).1, (evictAll code ids t).2.recorded) := by
  induction ids generalizing t with
  | nil => rfl
  | cons id ids ih =>
    unfold evictAll
    rw [find?_recorded]
    cases hf : t.find? id with
    | none => exact ih t
    | some e =>
      simp only [Option.map_some, evict_recorded, ih]
      split <;> rfl

theorem perform_recorded (ht : t.Sound) (op : Operation) :
    t.recorded.perform code.recorded op = (t.perform code op).recorded := by
  cases op with
  | dispatch h p => exact congrArg (·.1.2) (dispatch_recorded ht p h)
  | prune alive =>
    simp only [perform, prune, ids_recorded, evictAll_recorded]
  | reconcile report =>
    cases report with
    | error f => rfl
    | ok proxies => simp only [perform, reconcile, prune, ids_recorded, evictAll_recorded]
  | remove id => simp only [perform, remove, evictAll_recorded]
  | closeAll => simp only [perform, closeAll, ids_recorded, evictAll_recorded]

/-- What the code of the sessions was asked to do is what the table has noted. -/
theorem after_recorded (code : SessionCode ω σ) (world : ω) (ops : List Operation) :
    after code.recorded { world := world } ops = (after code world ops).recorded := by
  induction ops using List.reverseRecOn with
  | nil => rfl
  | append_singleton ops op ih =>
    have ht := sound_after code world ops
    rw [after, after, List.foldl_append, List.foldl_append, ← after, ← after, ih]
    exact perform_recorded ht op

/-- After any operations, each session that was made is closed or in the table, none was closed
twice, and the table holds what was made and not closed. At each point of the way at most one
session of a proxy was there; one was asked for only where there was none; and a packet went only
to a session that was there, not closed, and had just been found alive. All this is said of the
events, which are what the code of the sessions itself would write down. -/
theorem closed_once (code : SessionCode ω σ) (world : ω) (ops : List Operation) :
    let t := after code world ops
    (after code.recorded { world := world } ops).world.log = t.events ∧
    (t.madeIds : Multiset ProxyId) = t.closedIds + t.ids ∧
    ((closings t.events).map Prod.fst).Nodup ∧
    t.tracked.map Tracked.key = live t.events ∧
    (∀ log rest, t.events = log ++ rest → (liveIds log).Nodup) ∧
    (∀ log e rest, t.events = log ++ e :: rest →
      match e with
      | .made n id => id ∉ liveIds log ∧ n ∉ (makings log).map Prod.fst
      | .notMade id => id ∉ liveIds log
      | .probed n id _ => (n, id) ∈ live log
      | .handled n id => (n, id) ∈ live log ∧ .closed n id ∉ log ∧
          log.getLast? = some (.probed n id (some true))
      | .closed n id => (n, id) ∈ live log ∧ .closed n id ∉ log) := by
  intro t
  have ht : t.Sound := sound_after code world ops
  refine ⟨by rw [after_recorded]; rfl, madeIds_coe ht, closings_nodup ht.orderly, ht.live.symm,
    ?_, ?_⟩
  · intro log rest h
    exact liveIds_nodup (orderly_of_append (h ▸ ht.orderly))
  · intro log e rest h
    have hlog : Orderly (log ++ e :: rest) := h ▸ ht.orderly
    have he := inOrder_of_append hlog
    have hnot {k : Key} (hk : k ∈ live log) : .closed k.1 k.2 ∉ log := fun hc =>
      not_mem_closings (orderly_of_append hlog) hk (mem_closings_iff.mpr hc)
    cases e with
    | made n id => exact he
    | notMade id => exact he
    | probed n id alive => exact he
    | handled n id => exact ⟨he.1, hnot he.1, he.2⟩
    | closed n id => exact ⟨he, hnot he⟩

end Table

end Intercept
