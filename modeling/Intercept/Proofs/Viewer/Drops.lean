import Intercept.Proofs.Session.Isolation
import Intercept.Proofs.Session.Lifecycle
import Intercept.Viewer
import Mathlib.Data.Nat.Basic

/-!
Which packets the viewer drops. A session counts the packets of its proxy that could be dropped,
and nothing else moves that count: not the packets of other proxies, not injected ones, and not
what comes in on a channel without a filter. So for as long as a session lives every n-th of them
is dropped, and the next session counts from one again. The count is a word of 64 bits: the packet
after the last one that it can number has the number zero.
-/

namespace Intercept

open Table

/-- Brings a packet of this proxy that could be dropped. -/
def Operation.droppable (a : ProxyId) : Operation → Bool
  | .dispatch h p => p.proxy == a && Watch.canDrop h.caps p
  | _ => false

namespace Viewer

def verdict (every : UInt64) (t : Watches) (h : Handle) (p : Packet) : Option Bool :=
  ((hub.decide (Watch.code every) t p).run h).1.1

def isDrop (every : UInt64) (a : ProxyId) (t : Watches) : Operation → Bool
  | .dispatch h p => p.proxy == a && verdict every t h p == some false
  | _ => false

def drops (every : UInt64) (a : ProxyId) : Watches → List Operation → Nat
  | _, [] => 0
  | t, op :: ops =>
    (if isDrop every a t op then 1 else 0) + drops every a (t.perform (Watch.code every) op) ops

def evictions (a : ProxyId) (t : Watches) : Nat := t.closedIds.count a

def counted (a : ProxyId) (t : Watches) : UInt64 := (t.session a).elim 0 Watch.filterable

/-- There is no session of this proxy when the stretch begins, and none is evicted in it. -/
structure Stretch (every : UInt64) (log : List LogLine) (a : ProxyId)
    (before stretch : List Operation) : Prop where
  fresh : a ∉ (after (Watch.code every) log before).ids
  kept : evictions a (after (Watch.code every) log (before ++ stretch)) =
    evictions a (after (Watch.code every) log before)

variable {every : UInt64} {a : ProxyId} {t : Watches}

/-! One packet -/

theorem allows_eq (every k : UInt64) :
    Watch.allows every k = !decide (0 < every ∧ every.toNat ∣ k.toNat) := by
  rw [Watch.allows, Bool.eq_iff_iff]
  rcases Decidable.em (every = 0) with rfl | hne
  · simp
  · have hpos : 0 < every := UInt64.pos_iff_ne_zero.mpr hne
    simp [hpos, hne, Nat.dvd_iff_mod_eq_zero, ← UInt64.toNat_inj]

theorem next_verdict (every : UInt64) (caps : Capabilities) (w : Watch) (p : Packet) :
    (w.next every caps p).1 = !decide
      (Watch.canDrop caps p = true ∧ 0 < every ∧ every.toNat ∣ (w.filterable + 1).toNat) := by
  rw [Watch.next]
  split
  · rename_i hdrop
    simp only [allows_eq, hdrop, true_and]
  · rename_i hdrop
    simp [hdrop]

theorem next_filterable (every : UInt64) (caps : Capabilities) (w : Watch) (p : Packet) :
    (w.next every caps p).2.filterable =
      w.filterable + if Watch.canDrop caps p then 1 else 0 := by
  rw [Watch.next]
  split
  · rfl
  · exact (UInt64.add_zero w.filterable).symm

/-- A session is always alive, and always comes to a verdict. -/
theorem run_serve (every : UInt64) (t : Watches) {e : Tracked Watch}
    (he : t.session e.proxy = some e.session) (p : Packet) (h : Handle) :
    ∃ t', (t.serve (Watch.code every) e p).run h =
        ((some (some (e.session.next every h.caps p).1), t'), h) ∧
      t'.session e.proxy = some (e.session.next every h.caps p).2 ∧
      t'.closedIds = t.closedIds := by
  refine ⟨_, rfl, ?_, ?_⟩
  · change ((t.keep e.proxy e.session).keep e.proxy _).session e.proxy = _
    rw [session_keep_own, session_keep_own, he]
    rfl
  · simp [closedIds, keep, note]

/-- A packet goes to the session of its proxy, or to one that has counted nothing yet. -/
theorem run_dispatch (every : UInt64) (t : Watches) (p : Packet) (h : Handle) :
    ∃ (w : Watch) (t' : Watches), (t.dispatch (Watch.code every) p).run h =
        ((some (some (w.next every h.caps p).1), t'), h) ∧
      w.filterable = counted p.proxy t ∧
      t'.session p.proxy = some (w.next every h.caps p).2 ∧
      t'.closedIds = t.closedIds := by
  rw [dispatch]
  rcases find?_session t p.proxy with ⟨hfind, hnone⟩ | ⟨n, w, hfind, hsome⟩
  · let w : Watch := { proxy := p.proxy }
    let u : Watches := { t with world := t.world ++ [Watch.newLine p] }
    obtain ⟨t', hrun, hsession, hclosed⟩ := run_serve every (u.add p.proxy w)
      (e := ⟨t.made, p.proxy, w⟩) (session_add_own hnone) p h
    refine ⟨w, t', ?_, ?_, hsession, ?_⟩
    · rw [hfind]
      exact hrun
    · rw [counted, hnone]
      rfl
    · rw [hclosed]
      simp [closedIds, add, u]
  · obtain ⟨t', hrun, hsession, hclosed⟩ :=
      run_serve every t (e := ⟨n, p.proxy, w⟩) hsome p h
    refine ⟨w, t', ?_, ?_, hsession, hclosed⟩
    · rw [hfind]
      exact hrun
    · rw [counted, hsome]
      rfl

/-- The hub comes to a verdict by what the session has counted. It leaves the channel alone. -/
theorem run_decide (every : UInt64) (t : Watches) (p : Packet) (h : Handle) :
    (hub.decide (Watch.code every) t p).run h =
      ((some (!decide (Watch.canDrop h.caps p = true ∧ 0 < every ∧
        every.toNat ∣ (counted p.proxy t + 1).toNat)),
        t.perform (Watch.code every) (.dispatch h p)), h) := by
  obtain ⟨w, t', hrun, hw, -, -⟩ := run_dispatch every t p h
  have hdecide : (hub.decide (Watch.code every) t p).run h =
      ((((t.dispatch (Watch.code every) p).run h).1.1.map (·.getD true),
        ((t.dispatch (Watch.code every) p).run h).1.2),
        ((t.dispatch (Watch.code every) p).run h).2) := Script.run_bind _ _ h
  rw [hdecide, perform, hrun, next_verdict, hw]
  rfl

/-! One operation -/

theorem same_of_share {t t' : Watches} (h : t'.share a = t.share a) :
    evictions a t' = evictions a t ∧ counted a t' = counted a t := by
  have hstory : t'.story a = t.story a := congrArg Share.story h
  have hsession : t'.session a = t.session a := congrArg Share.session h
  exact ⟨by rw [evictions, evictions, count_closedIds, count_closedIds, hstory],
    by rw [counted, counted, hsession]⟩

/-- What is no packet leaves the session of a proxy as it is, or evicts it. -/
theorem cases_of_quit {t t' : Watches} {op : Operation} (hop : op.droppable a = false)
    (h : t'.share a = t.share a ∨ t'.share a = (t.share a).quit a) :
    (evictions a t' = evictions a t ∧
      counted a t' = counted a t + if op.droppable a then 1 else 0) ∨
    (evictions a t' = evictions a t + 1 ∧ a ∉ t'.ids) := by
  rw [hop, if_neg Bool.false_ne_true, UInt64.add_zero]
  rcases h with h | h
  · exact .inl (same_of_share h)
  · cases hsession : t.session a with
    | none => exact .inl (same_of_share (h.trans (Share.quit_none hsession a)))
    | some w =>
      rw [Share.quit, show (t.share a).session = some w from hsession] at h
      have hstory : t'.story a = t.story a ++ [.closed 0 a] := congrArg Share.story h
      refine .inr ⟨?_, session_none.1 (congrArg Share.session h)⟩
      rw [evictions, evictions, count_closedIds, count_closedIds, hstory, List.count_append,
        List.count_singleton_self]

/-- An operation leaves a session its count, apart from a packet that could be dropped, or else it
evicts the session. -/
theorem perform_cases (every : UInt64) (a : ProxyId) (t : Watches) (op : Operation) :
    (evictions a (t.perform (Watch.code every) op) = evictions a t ∧
      counted a (t.perform (Watch.code every) op) =
        counted a t + if op.droppable a then 1 else 0) ∨
    (evictions a (t.perform (Watch.code every) op) = evictions a t + 1 ∧
      a ∉ (t.perform (Watch.code every) op).ids) := by
  have hclose : ∀ log w, ((Watch.code every).close log w).1 = true := fun _ _ => rfl
  have hor {c : Prop} [Decidable c] {x y z : Share Watch} (h : x = if c then y else z) :
      x = z ∨ x = y := by
    rw [h]
    exact (em c).symm.imp (if_neg ·) (if_pos ·)
  cases op with
  | dispatch h p =>
    left
    by_cases hp : p.proxy = a
    · subst hp
      obtain ⟨w, t', hrun, hw, hsession, hclosed⟩ := run_dispatch every t p h
      simp only [perform, hrun]
      refine ⟨congrArg (·.count p.proxy) hclosed, ?_⟩
      rw [← hw, counted, hsession, Option.elim_some, next_filterable, Operation.droppable]
      simp
    · have hshare : (t.perform (Watch.code every) (.dispatch h p)).share a = t.share a :=
        share_dispatch_other t hp h
      obtain ⟨hevictions, hcounted⟩ := same_of_share hshare
      refine ⟨hevictions, hcounted.trans ?_⟩
      simp [Operation.droppable, hp]
  | prune alive => exact cases_of_quit rfl (hor (share_prune hclose t alive a))
  | reconcile report =>
    cases report with
    | error f => exact cases_of_quit rfl (.inl rfl)
    | ok proxies => exact cases_of_quit rfl (hor (share_prune hclose t (aliveIds proxies) a))
  | remove id => exact cases_of_quit rfl (hor (share_remove hclose t id a))
  | closeAll => exact cases_of_quit rfl (.inr (share_closeAll hclose t a))

theorem isDrop_eq (every : UInt64) (a : ProxyId) (t : Watches) (op : Operation) :
    isDrop every a t op = decide (op.droppable a = true ∧ 0 < every ∧
      every.toNat ∣ (counted a t + 1).toNat) := by
  cases op with
  | dispatch h p =>
    rw [isDrop, verdict, run_decide, Operation.droppable]
    by_cases hp : p.proxy = a
    · subst hp
      simp
    · simp [hp]
  | _ => rfl

/-! Stretches -/

theorem evictions_le (every : UInt64) (a : ProxyId) (t : Watches) (ops : List Operation) :
    evictions a t ≤ evictions a (ops.foldl (perform (Watch.code every)) t) := by
  induction ops generalizing t with
  | nil => exact le_rfl
  | cons op ops ih =>
    have hop : evictions a t ≤ evictions a (t.perform (Watch.code every) op) := by
      rcases perform_cases every a t op with ⟨h, -⟩ | ⟨h, -⟩ <;> omega
    exact hop.trans (ih _)

/-- Where a session was not evicted by several operations, none of these evicted it. -/
theorem kept_cons {op : Operation} {ops : List Operation}
    (h : evictions a ((op :: ops).foldl (perform (Watch.code every)) t) = evictions a t) :
    counted a (t.perform (Watch.code every) op) =
        counted a t + (if op.droppable a then 1 else 0) ∧
      evictions a (ops.foldl (perform (Watch.code every)) (t.perform (Watch.code every) op)) =
        evictions a (t.perform (Watch.code every) op) := by
  have hle := evictions_le every a (t.perform (Watch.code every) op) ops
  rw [List.foldl_cons] at h
  rcases perform_cases every a t op with ⟨hkept, hcounted⟩ | ⟨hgone, -⟩
  · exact ⟨hcounted, h.trans hkept.symm⟩
  · exact absurd (hle.trans_eq h) (by omega)

/-- As long as a session is not evicted it counts what could be dropped. -/
theorem counted_of_kept (ops : List Operation)
    (h : evictions a (ops.foldl (perform (Watch.code every)) t) = evictions a t) :
    counted a (ops.foldl (perform (Watch.code every)) t) =
      counted a t + UInt64.ofNat (ops.countP (·.droppable a)) := by
  induction ops generalizing t with
  | nil => exact (UInt64.add_zero (counted a t)).symm
  | cons op ops ih =>
    obtain ⟨hcounted, hrest⟩ := kept_cons h
    rw [List.foldl_cons, ih hrest, hcounted, List.countP_cons, UInt64.add_assoc, Nat.add_comm,
      UInt64.ofNat_add]
    split <;> rfl

/-- One more packet, as long as the count does not begin again. -/
theorem toNat_count {k : UInt64} {c : Bool} (h : k.toNat + (if c then 1 else 0) < UInt64.size) :
    (k + if c then 1 else 0).toNat = k.toNat + if c then 1 else 0 := by
  cases c with
  | true => exact (UInt64.toNat_add k 1).trans (Nat.mod_eq_of_lt h)
  | false => exact congrArg UInt64.toNat (UInt64.add_zero k)

/-- An operation drops a packet just if the quotient of the count goes up. -/
theorem quotient_next {op : Operation}
    (h : (counted a t).toNat + (if op.droppable a then 1 else 0) < UInt64.size) :
    (counted a t).toNat / every.toNat + (if isDrop every a t op then 1 else 0) =
      ((counted a t).toNat + if op.droppable a then 1 else 0) / every.toNat := by
  rw [isDrop_eq]
  cases hop : op.droppable a with
  | true =>
    rw [hop] at h
    have hnumber : (counted a t + 1).toNat = (counted a t).toNat + 1 := toNat_count (c := true) h
    have hpos : (0 < every ∧ every.toNat ∣ (counted a t).toNat + 1) ↔
        every.toNat ∣ (counted a t).toNat + 1 :=
      and_iff_right_of_imp fun hdvd =>
        UInt64.lt_iff_toNat_lt.mpr (Nat.pos_of_dvd_of_pos hdvd (Nat.succ_pos _))
    simp [hnumber, hpos, Nat.succ_div]
  | false => simp

/-- As long as the count does not begin again every n-th of these packets is dropped. -/
theorem drops_of_kept (ops : List Operation)
    (h : evictions a (ops.foldl (perform (Watch.code every)) t) = evictions a t)
    (hshort : (counted a t).toNat + ops.countP (·.droppable a) < UInt64.size) :
    (counted a t).toNat / every.toNat + drops every a t ops =
      ((counted a t).toNat + ops.countP (·.droppable a)) / every.toNat := by
  -- The bound is on the count at the end, so that no packet on the way makes it begin again.
  induction ops generalizing t with
  | nil => rfl
  | cons op ops ih =>
    obtain ⟨hcounted, hrest⟩ := kept_cons h
    rw [List.countP_cons] at hshort ⊢
    have hnext : (counted a (t.perform (Watch.code every) op)).toNat =
        (counted a t).toNat + if op.droppable a then 1 else 0 := by
      rw [hcounted, toNat_count (by omega)]
    have hdrops := ih hrest (by rw [hnext]; omega)
    rw [hnext, ← quotient_next (by omega), Nat.add_assoc] at hdrops
    rw [drops, hdrops, Nat.add_assoc, Nat.add_comm (ops.countP _)]

theorem after_append (every : UInt64) (log : List LogLine) (before ops : List Operation) :
    after (Watch.code every) log (before ++ ops) =
      ops.foldl (perform (Watch.code every)) (after (Watch.code every) log before) :=
  List.foldl_append

/-- A run is, for every proxy, a stretch since the last eviction of its session. -/
theorem exists_stretch (every : UInt64) (log : List LogLine) (a : ProxyId) (ops : List Operation) :
    ∃ before stretch, ops = before ++ stretch ∧ Stretch every log a before stretch := by
  induction ops using List.reverseRecOn with
  | nil => exact ⟨[], [], rfl, List.not_mem_nil, rfl⟩
  | append_singleton ops op ih =>
    obtain ⟨before, stretch, rfl, hfresh, hkept⟩ := ih
    have hlast := perform_cases every a (after (Watch.code every) log (before ++ stretch)) op
    rcases hlast with ⟨hsame, -⟩ | ⟨-, hgone⟩
    · refine ⟨before, stretch ++ [op], List.append_assoc _ _ _, hfresh, ?_⟩
      rw [← List.append_assoc, after_append]
      exact hsame.trans hkept
    · refine ⟨before ++ stretch ++ [op], [], (List.append_nil _).symm, ?_, by rw [List.append_nil]⟩
      rw [after_append]
      exact hgone

/-- For every proxy a run is at every moment in one stretch. In it a counter of 64 bits numbers the
packets of the proxy that could be dropped, and no others. One of these is dropped if and only if n
is not zero and divides its number; everything else passes. So as long as the counter does not begin
again, the k-th of them is dropped if and only if n divides k, and of N of them N / n are. What the
hub decides is the operation on the table, and does nothing to the channel. Another stretch begins
wherever a session is evicted. -/
theorem schedule (every : UInt64) (log : List LogLine) (ops : List Operation) (a : ProxyId) :
    let t := after (Watch.code every) log ops
    (∃ before stretch, ops = before ++ stretch ∧ Stretch every log a before stretch) ∧
    (∀ before stretch, ops = before ++ stretch → Stretch every log a before stretch →
      let n := stretch.countP (·.droppable a)
      (∀ h p, p.proxy = a → (hub.decide (Watch.code every) t p).run h =
        ((some (!decide (Watch.canDrop h.caps p = true ∧ 0 < every ∧
          every.toNat ∣ (n + 1) % UInt64.size)),
          t.perform (Watch.code every) (.dispatch h p)), h)) ∧
      (n + 1 < UInt64.size → ∀ h p, p.proxy = a →
        verdict every t h p = some (!decide (Watch.canDrop h.caps p = true ∧ 0 < every ∧
          every.toNat ∣ n + 1))) ∧
      (n < UInt64.size →
        drops every a (after (Watch.code every) log before) stretch = n / every.toNat)) ∧
    ∀ op, evictions a (t.perform (Watch.code every) op) ≠ evictions a t →
      Stretch every log a (ops ++ [op]) [] := by
  intro t
  refine ⟨exists_stretch every log a ops, ?_, fun op hop => ?_⟩
  · rintro before stretch rfl ⟨hfresh, hkept⟩ n
    rw [after_append] at hkept
    have hzero : counted a (after (Watch.code every) log before) = 0 := by
      rw [counted, session_none.2 hfresh, Option.elim_none]
    have hcount : counted a t = UInt64.ofNat n := by
      rw [← UInt64.zero_add (UInt64.ofNat n), ← hzero, ← counted_of_kept stretch hkept,
        ← after_append]
    have hnext : (counted a t + 1).toNat = (n + 1) % UInt64.size := by
      rw [hcount, ← UInt64.ofNat_one, ← UInt64.ofNat_add, UInt64.toNat_ofNat']
    have hdecide : ∀ h p, p.proxy = a → (hub.decide (Watch.code every) t p).run h =
        ((some (!decide (Watch.canDrop h.caps p = true ∧ 0 < every ∧
          every.toNat ∣ (n + 1) % UInt64.size)),
          t.perform (Watch.code every) (.dispatch h p)), h) := by
      rintro h p rfl
      rw [run_decide, hnext]
    refine ⟨hdecide, fun hshort h p hp => ?_, fun hshort => ?_⟩
    · rw [verdict, hdecide h p hp, Nat.mod_eq_of_lt hshort]
    · have hdrops := drops_of_kept stretch hkept (by rw [hzero]; exact Nat.zero_add n ▸ hshort)
      rw [hzero] at hdrops
      simpa using hdrops
  · refine ⟨?_, by rw [List.append_nil]⟩
    rw [after_append]
    exact ((perform_cases every a t op).resolve_left fun hkept => hop hkept.1).2

/-- The fourth packet of proxy 1 is dropped like the second one, with a packet of another proxy, an
injected one and one of a channel without a filter in between. After a removal it is the first. -/
theorem schedule_second :
    let filtering : Handle := .live { filter := true } false [] []
    let plain : Handle := .live {} false [] []
    let packet (id : ProxyId) (bits : UInt32) : Packet := ⟨0, "tcp", "", id, "", [], ⟨bits⟩⟩
    let own : Operation := .dispatch filtering (packet 1 0)
    let before : List Operation := [own, .remove 1]
    let stretch : List Operation := [own, .dispatch filtering (packet 2 0), own,
      .dispatch plain (packet 1 0), .remove 2, .dispatch filtering (packet 1 2), own]
    let table (ops : List Operation) : Watches := after (Watch.code 2) [] ops
    Stretch 2 [] 1 before stretch ∧ drops 2 1 (table before) stretch = 1 ∧
      verdict 2 (table (before ++ stretch)) filtering (packet 1 2) = some true ∧
      verdict 2 (table (before ++ stretch)) filtering (packet 1 0) = some false ∧
      verdict 2 (table (before ++ stretch ++ [.remove 1])) filtering (packet 1 0) = some true := by
  intro filtering plain packet own before stretch table
  have hstretch : Stretch 2 [] 1 before stretch := ⟨by decide, by decide⟩
  have hcount : stretch.countP (·.droppable 1) = 3 := by decide
  obtain ⟨-, hnow, hevicted⟩ := schedule 2 [] (before ++ stretch) 1
  obtain ⟨-, hverdict, hdrops⟩ := hnow before stretch rfl hstretch
  rw [hcount] at hverdict hdrops
  have hagain := hevicted (.remove 1) (by decide)
  obtain ⟨-, hfirst, -⟩ := (schedule 2 [] _ 1).2.1 _ [] (List.append_nil _).symm hagain
  refine ⟨hstretch, hdrops (by decide), ?_, ?_, ?_⟩
  · rw [hverdict (by decide) filtering (packet 1 2) rfl]
    decide
  · rw [hverdict (by decide) filtering (packet 1 0) rfl]
    decide
  · rw [hfirst (by decide) filtering (packet 1 0) rfl]
    decide

end Viewer

end Intercept
