import Intercept.Proofs.Pruner.Schedule
import Intercept.Proofs.Session.Eviction

/-!
What a pass takes out. A pass holds the answer of the directory against the sessions there are when
the answer comes. So of the sessions that go, each is one that the answer does not report alive; but
it may have been made while the call was outstanding, and the directory was asked before it knew of
the proxy.
-/

namespace Intercept.Pruner

open SessionLog

variable {ω σ : Type} {cfg : PrunerConfig} {code : SessionCode ω σ} {p : Pruner ω σ}

/-- An answer as it is applied: the table when its call was made, what it says, and the table before
and after. -/
structure Pass (ω σ : Type) where
  asked : Table ω σ
  report : Except Failure (List ProxyStatus)
  before : Table ω σ
  after : Table ω σ

namespace Pass

def evicted (pass : Pass ω σ) : List Key := pass.before.keys.filter (· ∉ pass.after.keys)

def newcomers (pass : Pass ω σ) : List Key :=
  makings (pass.before.events.drop pass.asked.events.length)

/-- What an answer does to a table that has grown out of the one the directory was asked for. -/
structure Reconciles (code : SessionCode ω σ) (pass : Pass ω σ) : Prop where
  sound : pass.before.Sound
  known : pass.asked.Sound
  grown : pass.asked.events <+: pass.before.events
  after : pass.after = (pass.before.reconcile code pass.report).2

end Pass

def asking (cfg : PrunerConfig) (code : SessionCode ω σ) (asked : Table ω σ) (p : Pruner ω σ)
    (x : Action) : Table ω σ :=
  if (promiseBy cfg code p x).isSome then p.table else asked

/-- The answers that are applied in a run, with the table when the last call was made. -/
def passes (cfg : PrunerConfig) (code : SessionCode ω σ) :
    Table ω σ → Pruner ω σ → List Action → List (Pass ω σ)
  | _, _, [] => []
  | asked, p, x :: xs =>
    (answerBy cfg code p x).toList.map
        (fun a => ⟨asked, a.2.report, p.table, (p.act cfg code x).table⟩) ++
      passes cfg code (asking cfg code asked p x) (p.act cfg code x) xs

/-! Along a run -/

/-- Whatever is done with a sound table, it stays sound, and its events are only added to. -/
theorem grown_performed {t : Table ω σ} (ht : t.Sound) (ops : List Operation) :
    (ops.foldl (Table.perform code) t).Sound ∧
      t.events <+: (ops.foldl (Table.perform code) t).events := by
  induction ops generalizing t with
  | nil => exact ⟨ht, List.prefix_refl _⟩
  | cons op ops ih =>
    obtain ⟨hsound, hgrown⟩ := ih (Table.sound_perform ht op)
    exact ⟨hsound, (Table.events_perform t op).trans hgrown⟩

theorem grown_act (hs : p.table.Sound) (x : Action) :
    (p.act cfg code x).table.Sound ∧ p.table.events <+: (p.act cfg code x).table.events := by
  rw [table_act]
  exact grown_performed hs _

theorem table_answer {start : Nat} {promise : Promise} {x : Action}
    (ha : answerBy cfg code p x = some (start, promise)) :
    (p.act cfg code x).table = (p.table.reconcile code promise.report).2 := by
  rw [table_act]
  cases x with
  | work =>
    simp only [performedBy, ha, Option.toList_some, List.flatMap_singleton]
    cases promise.report <;> rfl
  | _ => cases ha

theorem reconciles_passes {asked : Table ω σ} (hs : p.table.Sound) (hk : asked.Sound)
    (hg : asked.events <+: p.table.events) (xs : List Action) :
    ∀ pass ∈ passes cfg code asked p xs, pass.Reconciles code := by
  induction xs generalizing asked p with
  | nil =>
    intro pass hpass
    cases hpass
  | cons x xs ih =>
    intro pass hpass
    obtain ⟨hs', hg'⟩ : (p.act cfg code x).table.Sound ∧
        p.table.events <+: (p.act cfg code x).table.events := grown_act hs x
    rw [passes, List.mem_append, List.mem_map] at hpass
    rcases hpass with ⟨⟨start, promise⟩, ha, rfl⟩ | hpass
    · rw [Option.mem_toList] at ha
      exact ⟨hs, hk, hg, table_answer ha⟩
    · unfold asking at hpass
      split at hpass
      · exact ih hs' hs hg' pass hpass
      · exact ih hs' hk (hg.trans hg') pass hpass

/-! What a pass does -/

namespace Pass

variable {pass : Pass ω σ}

theorem mem_evicted {k : Key} :
    k ∈ pass.evicted ↔ k ∈ pass.before.keys ∧ k ∉ pass.after.keys := by
  rw [evicted, List.mem_filter, decide_eq_true_iff]

/-- A session that is there when the answer comes was there when the call was made, or was made
since. -/
theorem Reconciles.known_or_new (h : pass.Reconciles code) {k : Key} (hk : k ∈ pass.before.keys) :
    k ∈ pass.asked.keys ∨ k ∈ pass.newcomers := by
  obtain ⟨rest, hrest⟩ := h.grown
  have hnew : pass.newcomers = makings rest := by
    rw [newcomers, ← hrest, List.drop_left]
  rw [← Table.live_keys h.sound] at hk
  have hmade : k ∈ (makings pass.before.events : Multiset Key) := by
    rw [makings_eq h.sound.orderly]
    exact Multiset.mem_add.mpr (.inr hk)
  rw [← hrest, makings_append, Multiset.mem_coe, List.mem_append] at hmade
  rw [hnew]
  refine hmade.imp_left fun hold => ?_
  have hopen : k ∉ closings pass.asked.events := by
    intro hclosed
    apply not_mem_closings h.sound.orderly hk
    rw [← hrest, closings_append]
    exact List.mem_append_left _ hclosed
  have hsum : k ∈ (closings pass.asked.events + live pass.asked.events : Multiset Key) := by
    rw [← makings_eq h.known.orderly]
    exact hold
  rw [← Table.live_keys h.known]
  exact (Multiset.mem_add.mp hsum).resolve_left hopen

theorem Reconciles.after_ok (h : pass.Reconciles code) {proxies : List ProxyStatus}
    (hr : pass.report = .ok proxies) :
    pass.after = (pass.before.prune code (Table.aliveIds proxies)).2 := by
  rw [h.after, hr]
  rfl

theorem Reconciles.after_error (h : pass.Reconciles code) {f : Failure}
    (hr : pass.report = .error f) : pass.after = pass.before := by
  rw [h.after, hr]
  rfl

theorem Reconciles.sublist (h : pass.Reconciles code) :
    pass.after.tracked.Sublist pass.before.tracked := by
  rw [h.after]
  cases pass.report with
  | error f => exact List.Sublist.refl _
  | ok proxies => exact Table.evictAll_sublist _ _

theorem Reconciles.stays (h : pass.Reconciles code) {proxies : List ProxyStatus}
    (hr : pass.report = .ok proxies) {e : Tracked σ} (he : e ∈ pass.before.tracked)
    (hid : e.proxy ∈ Table.aliveIds proxies) : e ∈ pass.after.tracked := by
  rw [h.after_ok hr]
  apply Table.evictAll_spares he
  simp [hid]

theorem Reconciles.unreported (h : pass.Reconciles code) {proxies : List ProxyStatus}
    (hr : pass.report = .ok proxies) {k : Key} (hk : k ∈ pass.evicted) :
    k.2 ∉ Table.aliveIds proxies := by
  obtain ⟨hbefore, hafter⟩ := mem_evicted.mp hk
  obtain ⟨e, he, rfl⟩ := List.mem_map.mp hbefore
  intro hid
  exact hafter (List.mem_map_of_mem (h.stays hr he hid))

theorem Reconciles.stays_iff (h : pass.Reconciles code)
    (hclose : ∀ w s, (code.close w s).1 = true) {proxies : List ProxyStatus}
    (hr : pass.report = .ok proxies) {e : Tracked σ} (he : e ∈ pass.before.tracked) :
    e ∈ pass.after.tracked ↔ e.proxy ∈ Table.aliveIds proxies := by
  refine ⟨?_, h.stays hr he⟩
  intro hkept
  rw [h.after_ok hr] at hkept
  have hout := Table.evictAll_takes hclose hkept
  by_contra hid
  apply hout
  rw [List.mem_filter]
  exact ⟨List.mem_map_of_mem he, by simpa using hid⟩

theorem Reconciles.closings (h : pass.Reconciles code) :
    (closings pass.after.events : Multiset Key) = closings pass.before.events + pass.evicted := by
  cases hr : pass.report with
  | error f =>
    have hafter := h.after_error hr
    have hnone : pass.evicted = [] := by
      rw [List.eq_nil_iff_forall_not_mem]
      intro k hk
      obtain ⟨hin, hout⟩ := mem_evicted.mp hk
      rw [hafter] at hout
      exact hout hin
    rw [hnone, hafter]
    exact (Multiset.add_zero _).symm
  | ok proxies =>
    unfold evicted
    rw [h.after_ok hr]
    exact Table.closings_evictAll h.sound _

end Pass

/-- For every run on a table of whatever history: what a pass takes out was not reported alive by
its answer, and is closed by it, once. Each session that goes was there when the directory was
asked, or was made while the call was outstanding. The sessions that are reported alive stay as they
are; and as long as no closing falls apart, the others go, no matter when they were made. -/
theorem evicts_unreported (cfg : PrunerConfig) (code : SessionCode ω σ) (world : ω)
    (ops : List Operation) (d : Promise) (xs : List Action) :
    let t := Table.after code world ops
    ∀ pass ∈ passes cfg code t (start cfg t d) xs,
      pass.asked.events <+: pass.before.events ∧
      (∀ f, pass.report = .error f → pass.after = pass.before) ∧
      ∀ proxies, pass.report = .ok proxies →
        pass.after.tracked.Sublist pass.before.tracked ∧
        (∀ k ∈ pass.evicted, k.2 ∉ Table.aliveIds proxies ∧
          (k ∈ pass.asked.keys ∨ k ∈ pass.newcomers)) ∧
        (closings pass.after.events : Multiset Key) =
          closings pass.before.events + pass.evicted ∧
        (∀ e ∈ pass.before.tracked, e.proxy ∈ Table.aliveIds proxies → e ∈ pass.after.tracked) ∧
        ((∀ w s, (code.close w s).1 = true) → ∀ e ∈ pass.before.tracked,
          e ∈ pass.after.tracked ↔ e.proxy ∈ Table.aliveIds proxies) := by
  intro t pass hpass
  have ht : t.Sound := Table.sound_after code world ops
  have h : pass.Reconciles code := reconciles_passes ht ht (List.prefix_refl _) xs pass hpass
  refine ⟨h.grown, fun f => h.after_error, ?_⟩
  intro proxies hr
  refine ⟨h.sublist, ?_, h.closings, ?_, ?_⟩
  · intro k hk
    have hbefore : k ∈ pass.before.keys := (Pass.mem_evicted.mp hk).1
    exact ⟨h.unreported hr hk, h.known_or_new hbefore⟩
  · intro e he hid
    exact h.stays hr he hid
  · intro hclose e he
    exact h.stays_iff hclose hr he

/-- Two sessions are there when the directory is asked, and a third is made before it says that only
the first is alive: the second and the third go. -/
theorem evicts_unreported_two :
    let cfg : PrunerConfig := { interval := 10 }
    let code : SessionCode Unit Unit :=
      ⟨fun _ _ => .done (.ok (), ()), fun _ _ => (some true, (), ()),
        fun _ _ _ => .done (.ok true, (), ()), fun _ _ => (true, ())⟩
    let dispatch (id : ProxyId) : Action :=
      .operate (.dispatch (.detached {}) ⟨0, "tcp", "", id, "", [], ⟨0⟩⟩)
    let reported : List ProxyStatus := [⟨1, true, "", "", 0, 0⟩]
    let t : Table Unit Unit := Table.after code () []
    let xs : List Action :=
      [dispatch 1, dispatch 2, .elapse 10, .work, dispatch 3, .elapse 5, .work]
    ∃ pass ∈ passes cfg code t (start cfg t ⟨some 5, .ok reported⟩) xs,
      pass.report = .ok reported ∧
      pass.evicted = [(1, 2), (2, 3)] ∧ pass.newcomers = [(2, 3)] ∧
      ∀ k ∈ pass.evicted, k.2 ∉ Table.aliveIds reported ∧
        (k ∈ pass.asked.keys ∨ k ∈ pass.newcomers) := by
  intro cfg code dispatch reported t xs
  obtain ⟨pass, hpass, hsome, hev, hnew⟩ :
      ∃ pass ∈ passes cfg code t (start cfg t ⟨some 5, .ok reported⟩) xs,
        pass.report.toOption = some reported ∧
        pass.evicted = [(1, 2), (2, 3)] ∧ pass.newcomers = [(2, 3)] := by
    decide +kernel
  have hr : pass.report = .ok reported := by
    cases hr : pass.report with
    | error f =>
      rw [hr] at hsome
      cases hsome
    | ok proxies =>
      rw [hr] at hsome
      exact congrArg Except.ok (Option.some.inj hsome)
  obtain ⟨-, -, hok⟩ := evicts_unreported cfg code () [] ⟨some 5, .ok reported⟩ xs pass hpass
  obtain ⟨-, hout, -⟩ := hok reported hr
  exact ⟨pass, hpass, hr, hev, hnew, hout⟩

/-- The directory is asked when there is one session, and takes its time. A second session is made
meanwhile, and the answer, which says nothing of its proxy, takes it out. -/
theorem newcomer_evicted :
    let cfg : PrunerConfig := { interval := 10 }
    let code : SessionCode Unit Unit :=
      ⟨fun _ _ => .done (.ok (), ()), fun _ _ => (some true, (), ()),
        fun _ _ _ => .done (.ok true, (), ()), fun _ _ => (true, ())⟩
    let packet (id : ProxyId) : Packet := ⟨0, "tcp", "", id, "", [], ⟨0⟩⟩
    let slow : Promise := ⟨some 5, .ok [⟨1, true, "", "", 0, 0⟩]⟩
    let t : Table Unit Unit := Table.after code () []
    let xs : List Action := [.operate (.dispatch (.detached {}) (packet 1)), .elapse 10, .work,
      .operate (.dispatch (.detached {}) (packet 2)), .elapse 5, .work]
    0 < cfg.interval ∧ (passes cfg code t (start cfg t slow) xs).map Pass.evicted = [[(1, 2)]] ∧
      ¬ ∀ pass ∈ passes cfg code t (start cfg t slow) xs,
        ∀ k ∈ pass.evicted, k ∈ pass.asked.keys ∧ k ∉ pass.newcomers := by
  intro cfg code packet slow t xs
  refine ⟨by decide, ?_, ?_⟩
  · decide +kernel
  · decide +kernel

end Intercept.Pruner
