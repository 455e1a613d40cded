import Intercept.Proofs.Pruner.Schedule
import Intercept.Proofs.Session.Sweep

/-!
A pruner that has ended does nothing any more: what becomes of the table then is what others do. It
ends because it was told to, or because closing a session fell apart in one of its passes. Nothing
contains that: the pass goes no further than to this session, and there is no other pass.
-/

namespace Intercept

namespace Pruner

variable {ω σ : Type} {cfg : PrunerConfig} {code : SessionCode ω σ} {p : Pruner ω σ}

def Action.operation? : Action → Option Operation
  | .operate op => some op
  | _ => none

def operations (xs : List Action) : List Operation := xs.filterMap Action.operation?

def untouched (code : SessionCode ω σ) (p : Pruner ω σ) (xs : List Action) : Table ω σ :=
  (operations xs).foldl (Table.perform code) p.table

theorem untouched_cons (x : Action) (xs : List Action) (hx : (p.act cfg code x).table =
    p.untouched code [x]) : (p.act cfg code x).untouched code xs = p.untouched code (x :: xs) := by
  have hcons : operations (x :: xs) = operations [x] ++ operations xs :=
    List.filterMap_append (l := [x])
  rw [untouched, hx, untouched, untouched, hcons, List.foldl_append]

theorem run_cons (p : Pruner ω σ) (x : Action) (xs : List Action) :
    p.run cfg code (x :: xs) = (p.act cfg code x).run cfg code xs := rfl

theorem isFinished_iff : p.isFinished = true ↔ p.phase = .stopped ∨ p.phase = .crashed := by
  unfold isFinished
  cases p.phase <;> simp

theorem act_finished (cfg : PrunerConfig) (code : SessionCode ω σ) (h : p.isFinished = true)
    (x : Action) :
    (p.act cfg code x).phase = p.phase ∧ (p.act cfg code x).calls = p.calls ∧
      (p.act cfg code x).table = p.untouched code [x] := by
  have hrest : p.step? cfg code = none := (Resting.finished (isFinished_iff.mp h)).rest
  cases x with
  | operate op => exact ⟨rfl, rfl, rfl⟩
  | direct promise => exact ⟨rfl, rfl, rfl⟩
  | signal => exact ⟨rfl, rfl, rfl⟩
  | elapse ms =>
    obtain ⟨t, he, -⟩ := elapse_later cfg code p ms
    rw [he]
    exact ⟨rfl, rfl, rfl⟩
  | work =>
    have hsame : p.act cfg code .work = p := by rw [act, hrest, Option.getD_none]
    rw [hsame]
    exact ⟨rfl, rfl, rfl⟩

/-- Whatever goes on around it, a pruner that has ended makes no call and changes no table. -/
theorem finished_run (cfg : PrunerConfig) (code : SessionCode ω σ) (h : p.isFinished = true)
    (xs : List Action) :
    (p.run cfg code xs).phase = p.phase ∧ (p.run cfg code xs).calls = p.calls ∧
      (p.run cfg code xs).table = p.untouched code xs := by
  induction xs generalizing p with
  | nil => exact ⟨rfl, rfl, rfl⟩
  | cons x xs ih =>
    obtain ⟨hphase, hcalls, htable⟩ := act_finished cfg code h x
    have hnext : (p.act cfg code x).isFinished = true := by
      rw [isFinished_iff] at h ⊢
      rwa [hphase]
    obtain ⟨hphase', hcalls', htable'⟩ := ih hnext
    rw [run_cons, ← untouched_cons x xs htable]
    exact ⟨hphase'.trans hphase, hcalls'.trans hcalls, htable'⟩

/-- A pass that is cut short is the last one. -/
theorem crashed_work {begun time : Nat} {promise : Promise} {proxies : List ProxyStatus}
    (hp : p.phase = .calling begun promise) (hreport : promise.report = .ok proxies)
    (htime : answerTime begun promise = some time) (hle : time ≤ p.now)
    (hnone : (p.table.prune code (Table.aliveIds proxies)).1 = none) (xs : List Action) :
    ((p.act cfg code .work).run cfg code xs).phase = .crashed ∧
      ((p.act cfg code .work).run cfg code xs).calls = p.calls ∧
      ((p.act cfg code .work).run cfg code xs).table = (operations xs).foldl (Table.perform code)
        (p.table.prune code (Table.aliveIds proxies)).2 := by
  have hwork : p.act cfg code .work = p.apply code promise.report := by
    simp [act, step?, hp, htime, hle]
  have happly : p.act cfg code .work = { p with
      table := (p.table.prune code (Table.aliveIds proxies)).2, phase := .crashed } := by
    rw [hwork, hreport, apply_ok, hnone]
    rfl
  have hended : (p.act cfg code .work).isFinished = true := by rw [happly]; rfl
  obtain ⟨hphase, hcalls, htable⟩ := finished_run cfg code hended xs
  rw [happly] at hphase hcalls htable ⊢
  exact ⟨hphase, hcalls, htable⟩

end Pruner

namespace Table

variable {ω σ : Type} {code : SessionCode ω σ} {t : Table ω σ} {es : List (Tracked σ)}

/-- What a bulk eviction leaves when it was to take the sessions of all proxies but these, and came
as far as `gone`. -/
theorem tracked_without_part (hn : t.ids.Nodup) {alive : List ProxyId}
    {gone back : List (Tracked σ)} (hes : (gone ++ back).Perm (t.stale alive)) (w : ω) :
    (t.without gone w).tracked =
      t.tracked.filter fun x => x.proxy ∈ alive ∨ x.proxy ∈ back.map (·.proxy) := by
  have hdistinct : ((gone ++ back).map (·.proxy)).Nodup :=
    (hes.map _).nodup_iff.mpr (stale_distinct hn alive)
  rw [List.map_append, List.nodup_append] at hdistinct
  obtain ⟨-, -, hapart⟩ := hdistinct
  refine List.filter_congr fun x hx => ?_
  rw [decide_eq_decide]
  constructor
  · intro hout
    by_cases halive : x.proxy ∈ alive
    · exact .inl halive
    · have hin : x ∈ gone ++ back := hes.mem_iff.mpr (mem_stale.mpr ⟨hx, halive⟩)
      rcases List.mem_append.mp hin with hgone | hback
      · exact absurd (List.mem_map_of_mem hgone) hout
      · exact .inr (List.mem_map_of_mem hback)
  · intro hkept hgone
    rcases hkept with halive | hback
    · obtain ⟨e, he, hp⟩ := List.mem_map.mp hgone
      have hstale := hes.subset (List.mem_append_left back he)
      exact (mem_stale.mp hstale).2 (hp ▸ halive)
    · exact hapart _ hgone _ hback rfl

/-- How far a bulk eviction comes that takes its sessions in this order. -/
theorem evictAll_until (code : SessionCode ω σ) (hn : t.ids.Nodup) {alive : List ProxyId}
    (hes : es.Perm (t.stale alive)) :
    let r := evictAll code (es.map (·.proxy)) t
    (r.1 = some es.length ∧ (sweep code t.world es).fine = true ∧
      r.2.tracked = t.tracked.filter (·.proxy ∈ alive) ∧
      r.2.events = t.events ++ es.map Tracked.closing) ∨
    ∃ front e back, es = front ++ e :: back ∧ r.1 = none ∧
      (sweep code t.world front).fine = true ∧
      (code.close (sweep code t.world front).world e.session).1 = false ∧
      r.2.tracked = t.tracked.filter (fun x => x.proxy ∈ alive ∨ x.proxy ∈ back.map (·.proxy)) ∧
      r.2.events = t.events ++ (front ++ [e]).map Tracked.closing := by
  intro r
  have hin : ∀ e ∈ es, e ∈ t.tracked := fun e he => (mem_stale.mp (hes.subset he)).1
  have hdistinct : (es.map (·.proxy)).Nodup := (hes.map _).nodup_iff.mpr (stale_distinct hn alive)
  have hr : r = _ := evictAll_eq hn hin hdistinct
  rcases sweep_spec code t.world es with ⟨hfine, hgone⟩ |
    ⟨front, e, back, rfl, hgone, hcut, hfine, he⟩
  · left
    rw [hfine, hgone, if_pos rfl] at hr
    rw [hr]
    have hall : (es ++ []).Perm (t.stale alive) := by
      rw [List.append_nil]
      exact hes
    refine ⟨rfl, hfine, (tracked_without_part hn hall _).trans ?_, rfl⟩
    refine List.filter_congr fun x _ => ?_
    simp
  · right
    rw [hcut, hgone] at hr
    refine ⟨front, e, back, rfl, by rw [hr]; rfl, hfine, he, ?_, by rw [hr]; rfl⟩
    have hall : (front ++ [e] ++ back).Perm (t.stale alive) := by
      rw [List.append_assoc]
      exact hes
    rw [hr]
    exact tracked_without_part hn hall _

/-- A bulk eviction takes its sessions in some order and closes each of them once, up to the first
one whose closing falls apart. This one is out of the table as well; those behind it stay as they
are and are not closed, and there is no count. A pruner whose pass is cut short like this has ended:
it makes no call and evicts no session any more. -/
theorem evicts_until_collapse (code : SessionCode ω σ) (hn : t.ids.Nodup) (A : List ProxyId)
    (hes : es.Perm (t.tracked.filter (·.proxy ∉ A))) :
    let r := evictAll code (es.map (·.proxy)) t
    (t.prune code A = evictAll code ((t.tracked.filter (·.proxy ∉ A)).map (·.proxy)) t ∧
      t.closeAll code = t.prune code []) ∧
    ((r.1 = some es.length ∧ (sweep code t.world es).fine = true ∧
        r.2.tracked = t.tracked.filter (·.proxy ∈ A) ∧
        r.2.events = t.events ++ es.map Tracked.closing) ∨
      ∃ front e back, es = front ++ e :: back ∧ r.1 = none ∧
        (sweep code t.world front).fine = true ∧
        (code.close (sweep code t.world front).world e.session).1 = false ∧
        r.2.tracked = t.tracked.filter (fun x => x.proxy ∈ A ∨ x.proxy ∈ back.map (·.proxy)) ∧
        r.2.events = t.events ++ (front ++ [e]).map Tracked.closing) ∧
    ∀ (cfg : PrunerConfig) (p : Pruner ω σ) (begun : Nat) (promise : Promise)
      (proxies : List ProxyStatus),
      p.table = t → p.phase = .calling begun promise → promise.report = .ok proxies →
      (∃ time ≤ p.now, Pruner.answerTime begun promise = some time) →
      (t.prune code (aliveIds proxies)).1 = none → ∀ xs,
        let q := (p.act cfg code .work).run cfg code xs
        q.phase = .crashed ∧ q.calls = p.calls ∧
          q.table = (Pruner.operations xs).foldl (perform code)
            (t.prune code (aliveIds proxies)).2 := by
  intro r
  refine ⟨⟨?_, closeAll_eq code t⟩, evictAll_until code hn hes, ?_⟩
  · rw [prune, ids_stale]
    rfl
  · intro cfg p begun promise proxies ht hp hreport htime hnone xs
    obtain ⟨time, hle, htime⟩ := htime
    rw [← ht] at hnone ⊢
    exact Pruner.crashed_work hp hreport htime hle hnone xs

/-- Sessions that are nothing but whether closing them goes well, which it does not for proxy 1. -/
def brittle : SessionCode Unit Bool where
  create _ p := .done (.ok (p.proxy != 1), ())
  isAlive _ s := (some true, s, ())
  handle _ s _ := .done (.ok true, s, ())
  close _ s := (s, ())

/-- Three sessions, one of which falls apart while it is closed: the one before it goes, the one
behind it stays, and the pruner that was at it makes no other call. -/
theorem evicts_until_second :
    let t : Table Unit Bool :=
      { world := (), tracked := [⟨0, 2, true⟩, ⟨1, 1, false⟩, ⟨2, 3, true⟩], made := 3 }
    let promise : Promise := ⟨some 5, .ok []⟩
    let p : Pruner Unit Bool :=
      { table := t, directory := promise, due := 20, phase := .calling 10 promise, now := 15
        calls := [10] }
    let q := (p.act {} brittle .work).run {} brittle [.elapse 5, .work, .elapse 100, .work]
    t.ids.Nodup ∧ (t.prune brittle []).1 = none ∧
      (t.prune brittle []).2.tracked = [⟨2, 3, true⟩] ∧
      (t.prune brittle []).2.closedIds = [2, 1] ∧ q.now = 120 ∧ q.calls = [10] := by
  intro t promise p q
  have hn : t.ids.Nodup := by decide
  have hnone : (t.prune brittle []).1 = none := by decide
  obtain ⟨-, -, hpruner⟩ :=
    evicts_until_collapse brittle hn [] (List.Perm.refl (t.tracked.filter (·.proxy ∉ [])))
  obtain ⟨-, hcalls, -⟩ := hpruner {} p 10 promise [] rfl rfl rfl ⟨15, by decide, rfl⟩ hnone
    [.elapse 5, .work, .elapse 100, .work]
  exact ⟨hn, hnone, by rfl, by decide, by rfl, hcalls⟩

/-- The session of proxy 1 falls apart while it is closed. Neither a prune nor closing all sessions
comes to a result or to the session behind it, and the pruner never calls again. -/
theorem not_swept :
    let dispatch (id : ProxyId) : Operation :=
      .dispatch (.detached {}) ⟨0, "tcp", "", id, "", [], ⟨0⟩⟩
    let t : Table Unit Bool := after brittle () [dispatch 1, dispatch 2]
    let cfg : PrunerConfig := { interval := 10 }
    let p := (Pruner.start cfg t ⟨some 0, .ok []⟩).run cfg brittle
      [.elapse 10, .work, .work, .elapse 10, .work, .elapse 10, .work, .elapse 10]
    ((t.prune brittle []).1 = none ∧ (t.prune brittle []).2.ids = [2] ∧
      (t.prune brittle []).2.closedIds = [1]) ∧
    ((t.closeAll brittle).1 = none ∧ (t.closeAll brittle).2.ids = [2] ∧
      (t.closeAll brittle).2.closedIds = [1]) ∧
    (p.now = 40 ∧ p.isFinished = true ∧ p.calls = [10] ∧ p.table.ids = [2]) := by
  intro dispatch t cfg p
  refine ⟨?_, ?_, ?_⟩
  · decide +kernel
  · decide +kernel
  · decide +kernel

end Table

end Intercept
