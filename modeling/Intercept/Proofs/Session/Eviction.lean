import Intercept.Proofs.Session.Lifecycle

/-!
What an eviction leaves. Sessions only go, those of other proxies stay as they are, and every
session that goes is closed once. Unless closing falls apart, all go that were meant to. The events
of a table are only ever added to.
-/

namespace Intercept

open SessionLog

namespace Table

variable {ω σ : Type} {code : SessionCode ω σ} {t : Table ω σ}

def keys (t : Table ω σ) : List Key := t.tracked.map Tracked.key

theorem tracked_evict (t : Table ω σ) (e : Tracked σ) :
    (t.evict code e).2.tracked = t.tracked.filter (·.proxy != e.proxy) := rfl

theorem evictAll_sublist (ids : List ProxyId) (t : Table ω σ) :
    (evictAll code ids t).2.tracked.Sublist t.tracked := by
  induction ids generalizing t with
  | nil => exact List.Sublist.refl _
  | cons id ids ih =>
    unfold evictAll
    split
    · exact ih t
    · rename_i e _
      have hone : (t.evict code e).2.tracked.Sublist t.tracked := by
        rw [tracked_evict]
        exact List.filter_sublist
      simp only
      split
      · exact (ih (t.evict code e).2).trans hone
      · exact hone

theorem evictAll_spares {ids : List ProxyId} {e : Tracked σ} (he : e ∈ t.tracked)
    (hid : e.proxy ∉ ids) : e ∈ (evictAll code ids t).2.tracked := by
  induction ids generalizing t with
  | nil => exact he
  | cons id ids ih =>
    rw [List.mem_cons, not_or] at hid
    obtain ⟨hne, hid⟩ := hid
    unfold evictAll
    cases hf : t.find? id with
    | none => exact ih he hid
    | some x =>
      have hx : x.proxy = id := by simpa using List.find?_some hf
      have hkept : e ∈ (t.evict code x).2.tracked := by
        rw [tracked_evict, List.mem_filter, hx]
        exact ⟨he, by simpa using hne⟩
      simp only
      split
      · exact ih hkept hid
      · exact hkept

/-- As long as no closing falls apart, all of these sessions go. -/
theorem evictAll_takes (hclose : ∀ w s, (code.close w s).1 = true) {ids : List ProxyId}
    {e : Tracked σ} (he : e ∈ (evictAll code ids t).2.tracked) : e.proxy ∉ ids := by
  induction ids generalizing t with
  | nil => simp
  | cons id ids ih =>
    unfold evictAll at he
    rw [List.mem_cons, not_or]
    cases hf : t.find? id with
    | none =>
      simp only [hf] at he
      refine ⟨?_, ih he⟩
      intro hid
      have hin := (evictAll_sublist ids t).subset he
      rw [find?, List.find?_eq_none] at hf
      exact hf e hin (by simpa using hid)
    | some x =>
      have hx : x.proxy = id := by simpa using List.find?_some hf
      have hfine : (t.evict code x).1 = true := hclose t.world x.session
      simp only [hf, hfine, if_true] at he
      refine ⟨?_, ih he⟩
      have hin := (evictAll_sublist ids (t.evict code x).2).subset he
      rw [tracked_evict, List.mem_filter, hx] at hin
      simpa using hin.2

/-- An eviction is cut short only where a session's closing falls apart. -/
theorem evictAll_none {ids : List ProxyId} (h : (evictAll code ids t).1 = none) :
    ∃ w s, (code.close w s).1 = false := by
  induction ids generalizing t with
  | nil => cases h
  | cons id ids ih =>
    unfold evictAll at h
    cases hf : t.find? id with
    | none =>
      rw [hf] at h
      exact ih h
    | some e =>
      simp only [hf] at h
      split at h
      · exact ih (Option.map_eq_none_iff.mp h)
      · rename_i hclose
        exact ⟨t.world, e.session, Bool.eq_false_of_not_eq_true hclose⟩

theorem makings_evictAll (ids : List ProxyId) (t : Table ω σ) :
    makings (evictAll code ids t).2.events = makings t.events := by
  have hone (t : Table ω σ) (e : Tracked σ) :
      makings (t.evict code e).2.events = makings t.events := by
    simp [evict, note, drop, makings]
  induction ids generalizing t with
  | nil => rfl
  | cons id ids ih =>
    unfold evictAll
    split
    · exact ih t
    · simp only
      split
      · exact (ih _).trans (hone t _)
      · exact hone t _

theorem live_keys (ht : t.Sound) : live t.events = t.keys := ht.live

/-- What a part of a list leaves, and that part. -/
theorem perm_filter_append {l m : List Key} (h : m.Sublist l) (hl : l.Nodup) :
    (l : Multiset Key) = l.filter (· ∉ m) + m := by
  have hin : (l.filter (· ∈ m)).Perm m := by
    rw [List.perm_ext_iff_of_nodup (hl.filter _) (h.nodup hl)]
    intro k
    rw [List.mem_filter, decide_eq_true_iff]
    exact ⟨And.right, fun hk => ⟨h.subset hk, hk⟩⟩
  have hsplit := (List.filter_append_perm (· ∈ m) l).symm
  rw [Multiset.coe_add, Multiset.coe_eq_coe]
  refine hsplit.trans ((hin.append_right _).trans ?_)
  simpa using List.perm_append_comm

theorem nodup_keys (ht : t.Sound) : t.keys.Nodup := by
  have h := ids_nodup ht
  have hsnd : t.keys.map Prod.snd = t.ids := by
    rw [keys, List.map_map]
    rfl
  rw [← hsnd] at h
  exact h.of_map

/-- The sessions that an eviction has taken out were closed by it, and no others. -/
theorem closings_evictAll (ht : t.Sound) (ids : List ProxyId) :
    (closings (evictAll code ids t).2.events : Multiset Key) =
      closings t.events + t.keys.filter (· ∉ (evictAll code ids t).2.keys) := by
  have hu : (evictAll code ids t).2.Sound := sound_evictAll ht ids
  have hmade : makings (evictAll code ids t).2.events = makings t.events := makings_evictAll ids t
  have hsub : (evictAll code ids t).2.keys.Sublist t.keys :=
    (evictAll_sublist ids t).map Tracked.key
  generalize (evictAll code ids t).2 = u at hu hmade hsub ⊢
  -- what was made is the same before and after, so what is alive no longer is closed
  have hbefore := makings_eq ht.orderly
  have hafter := makings_eq hu.orderly
  rw [live_keys ht] at hbefore
  rw [live_keys hu, hmade, hbefore, perm_filter_append hsub (nodup_keys ht),
    ← Multiset.add_assoc] at hafter
  exact (Multiset.add_left_inj.mp hafter).symm

/-! Events are only added -/

theorem events_evict (t : Table ω σ) (e : Tracked σ) : t.events <+: (t.evict code e).2.events :=
  List.prefix_append _ _

theorem events_evictAll (ids : List ProxyId) (t : Table ω σ) :
    t.events <+: (evictAll code ids t).2.events := by
  induction ids generalizing t with
  | nil => exact List.prefix_refl _
  | cons id ids ih =>
    unfold evictAll
    split
    · exact ih t
    · rename_i e _
      have hone : t.events <+: (t.evict code e).2.events := events_evict t e
      simp only
      split
      · exact hone.trans (ih _)
      · exact hone

theorem events_serve (t : Table ω σ) (e : Tracked σ) (p : Packet) (h : Handle) :
    t.events <+: ((t.serve code e p).run h).1.2.events := by
  rcases hq : code.isAlive t.world e.session with ⟨alive, s, world⟩
  let u : Table ω σ :=
    { (t.keep e.proxy s).note (.probed e.serial e.proxy alive) with world := world }
  have hu : t.events <+: u.events := List.prefix_append _ _
  simp only [serve, hq]
  cases alive with
  | none => exact hu
  | some b =>
    cases b with
    | false => exact hu.trans (events_evict u _)
    | true =>
      rw [Script.run_bind]
      generalize (Script.run (code.handle world s p) h).1 = r
      obtain ⟨outcome, s', world'⟩ := r
      let v : Table ω σ :=
        { (u.keep e.proxy s').note (.handled e.serial e.proxy) with world := world' }
      have hv : t.events <+: v.events := hu.trans (List.prefix_append _ _)
      cases outcome with
      | ok verdict => exact hv
      | failed | collapsed => exact hv.trans (events_evict v _)

theorem events_dispatch (t : Table ω σ) (p : Packet) (h : Handle) :
    t.events <+: ((t.dispatch code p).run h).1.2.events := by
  unfold dispatch
  cases t.find? p.proxy with
  | some e => exact events_serve t e p h
  | none =>
    simp only [Script.run_bind]
    generalize (Script.run (code.create t.world p) h).1 = r
    obtain ⟨outcome, world⟩ := r
    cases outcome with
    | ok s =>
      let u : Table ω σ := { t with world := world }.add p.proxy s
      have hu : t.events <+: u.events := List.prefix_append _ _
      exact hu.trans (events_serve u _ p _)
    | failed | collapsed => exact List.prefix_append _ _

theorem events_perform (t : Table ω σ) (op : Operation) :
    t.events <+: (t.perform code op).events := by
  cases op with
  | dispatch h p => exact events_dispatch t p h
  | prune alive => exact events_evictAll _ t
  | reconcile report =>
    cases report with
    | error f => exact List.prefix_refl _
    | ok proxies => exact events_evictAll _ t
  | remove id => exact events_evictAll [id] t
  | closeAll => exact events_evictAll _ t

end Table

end Intercept
