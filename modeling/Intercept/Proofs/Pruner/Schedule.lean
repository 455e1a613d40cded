import Intercept.Proofs.Pruner.Runs
import Intercept.Proofs.Session.Eviction
import Mathlib.Data.List.Induction

/-!
When the directory is called. One call follows on the answer to the one before, and the next tick
leaves a whole interval to each call that was made, so no call comes before its time. As long as
each answer comes within an interval, the pruner waits for every tick, and no call comes late
either.
-/

namespace Intercept

def Promise.Within (promise : Promise) (ms : Nat) : Prop := ∃ d, promise.delay = some d ∧ d ≤ ms

namespace Pruner

variable {ω σ : Type} {cfg : PrunerConfig} {code : SessionCode ω σ} {p : Pruner ω σ}

def outstanding (p : Pruner ω σ) : Option Nat :=
  match p.phase with
  | .calling start _ => some start
  | _ => none

def answeredBy (cfg : PrunerConfig) (code : SessionCode ω σ) (p : Pruner ω σ) (x : Action) :
    List (Nat × Nat) :=
  (answerBy cfg code p x).toList.map fun a => (a.1, p.now)

/-- The calls that were answered, each with its beginning and its end. -/
def answered (cfg : PrunerConfig) (code : SessionCode ω σ) :
    Pruner ω σ → List Action → List (Nat × Nat) := gather cfg code (answeredBy cfg code)

def promises (cfg : PrunerConfig) (code : SessionCode ω σ) :
    Pruner ω σ → List Action → List Promise :=
  gather cfg code fun p x => (promiseBy cfg code p x).toList

def passOf : Except Failure (List ProxyStatus) → List Operation
  | .ok proxies => [.prune (Table.aliveIds proxies)]
  | .error _ => []

def performedBy (cfg : PrunerConfig) (code : SessionCode ω σ) (p : Pruner ω σ) :
    Action → List Operation
  | .operate op => [op]
  | x => (answerBy cfg code p x).toList.flatMap fun a => passOf a.2.report

/-- What is done with the table: what others do, and the passes. -/
def performed (cfg : PrunerConfig) (code : SessionCode ω σ) :
    Pruner ω σ → List Action → List Operation := gather cfg code (performedBy cfg code)

/-- The beginnings and ends of calls, one after the other. -/
def moments (spans : List (Nat × Nat)) (last : Option Nat) : List Nat :=
  spans.flatMap (fun s => [s.1, s.2]) ++ last.toList

theorem moments_answered (spans : List (Nat × Nat)) (start now : Nat) :
    moments (spans ++ [(start, now)]) none = moments spans (some start) ++ [now] := by
  simp [moments]

theorem moments_called (spans : List (Nat × Nat)) (now : Nat) :
    moments spans (some now) = moments spans none ++ [now] := by
  simp [moments]

theorem outstanding_calling {start : Nat} {promise : Promise}
    (hp : p.phase = .calling start promise) : p.outstanding = some start := by
  rw [outstanding, hp]

theorem outstanding_waiting (hp : p.phase = .waiting) : p.outstanding = none := by
  rw [outstanding, hp]

/-- An answer leaves the calls and the next tick as they are. -/
theorem outstanding_apply (code : SessionCode ω σ) (p : Pruner ω σ)
    (report : Except Failure (List ProxyStatus)) : (p.apply code report).outstanding = none := by
  obtain ⟨t, ph, he, hph⟩ := apply_fields code p report
  rw [he]
  rcases hph with rfl | rfl <;> rfl

/-! No call before its time -/

structure Paced (cfg : PrunerConfig) (spans : List (Nat × Nat)) (p : Pruner ω σ) : Prop where
  calls : p.calls = spans.map Prod.fst ++ p.outstanding.toList
  sorted : (moments spans p.outstanding).Pairwise (· ≤ ·)
  past : ∀ t ∈ moments spans p.outstanding, t ≤ p.now
  early : ∀ k s, p.calls[k]? = some s → (k + 1) * cfg.interval ≤ s
  due : (p.calls.length + 1) * cfg.interval ≤ p.due

theorem paced_start (cfg : PrunerConfig) (t : Table ω σ) (d : Promise) :
    Paced cfg [] (start cfg t d) := by
  have hn : (start cfg t d).outstanding = none := by
    unfold start outstanding
    split_ifs <;> rfl
  refine ⟨?_, ?_, ?_, ?_, ?_⟩
  · rw [hn]
    rfl
  · simp [hn, moments]
  · simp [hn, moments]
  · intro k s h
    simp [start] at h
  · simp [start]

theorem Paced.congr {spans : List (Nat × Nat)} {q : Pruner ω σ} (h : Paced cfg spans p)
    (hcalls : q.calls = p.calls) (hphase : q.phase = p.phase) (hdue : q.due = p.due)
    (hnow : p.now ≤ q.now) : Paced cfg spans q := by
  have hout : q.outstanding = p.outstanding := by rw [outstanding, hphase, outstanding]
  refine ⟨?_, ?_, ?_, ?_, ?_⟩
  · rw [hcalls, hout]
    exact h.calls
  · rw [hout]
    exact h.sorted
  · intro t ht
    rw [hout] at ht
    exact (h.past t ht).trans hnow
  · rw [hcalls]
    exact h.early
  · rw [hcalls, hdue]
    exact h.due

theorem sorted_snoc {l : List Nat} {t : Nat} (h : l.Pairwise (· ≤ ·)) (ht : ∀ x ∈ l, x ≤ t) :
    (l ++ [t]).Pairwise (· ≤ ·) := by
  rw [List.pairwise_append]
  refine ⟨h, List.pairwise_singleton _ t, ?_⟩
  intro x hx y hy
  rw [List.mem_singleton.mp hy]
  exact ht x hx

theorem past_snoc {l : List Nat} {t : Nat} (ht : ∀ x ∈ l, x ≤ t) : ∀ x ∈ l ++ [t], x ≤ t := by
  intro x hx
  rcases List.mem_append.mp hx with hx | hx
  · exact ht x hx
  · exact (List.mem_singleton.mp hx).le

/-- A call is made no earlier than its tick is due, and the tick after it is due no earlier than an
interval later. -/
theorem paced_call {spans : List (Nat × Nat)} (h : Paced cfg spans p) (hp : p.phase = .waiting)
    (hd : p.due ≤ p.now) : Paced cfg spans (p.call cfg) := by
  have hout : (p.call cfg).outstanding = some p.now := rfl
  have hcalls : (p.call cfg).calls = p.calls ++ [p.now] := rfl
  have hnone := outstanding_waiting hp
  have hsorted := h.sorted
  have hpast := h.past
  rw [hnone] at hsorted hpast
  refine ⟨?_, ?_, ?_, ?_, ?_⟩
  · rw [hout, hcalls, h.calls, hnone]
    simp
  · rw [hout, moments_called]
    exact sorted_snoc hsorted hpast
  · rw [hout, moments_called]
    exact past_snoc hpast
  · intro k s hk
    rw [hcalls, List.getElem?_append] at hk
    split at hk
    · exact h.early k s hk
    · rename_i hlt
      obtain ⟨hzero, rfl⟩ : k - p.calls.length = 0 ∧ p.now = s := by
        simpa [List.getElem?_singleton] using hk
      have hlen : k = p.calls.length := by omega
      rw [hlen]
      exact h.due.trans hd
  · have hnext := nextTick_ge cfg.interval p.due p.now
    have hdue := h.due
    rw [hcalls, List.length_append, List.length_singleton, Nat.succ_mul]
    exact (Nat.add_le_add_right hdue _).trans hnext

theorem paced_answer {spans : List (Nat × Nat)} (h : Paced cfg spans p) {start : Nat}
    {promise : Promise} (hp : p.phase = .calling start promise)
    (report : Except Failure (List ProxyStatus)) :
    Paced cfg (spans ++ [(start, p.now)]) (p.apply code report) := by
  have hnone := outstanding_apply code p report
  have hsome := outstanding_calling hp
  obtain ⟨t, ph, he, -⟩ := apply_fields code p report
  rw [he] at hnone ⊢
  have hsorted := h.sorted
  have hpast := h.past
  rw [hsome] at hsorted hpast
  refine ⟨?_, ?_, ?_, h.early, h.due⟩
  · rw [hnone, h.calls, hsome]
    simp
  · rw [hnone, moments_answered]
    exact sorted_snoc hsorted hpast
  · rw [hnone, moments_answered]
    exact past_snoc hpast

theorem paced_work {spans : List (Nat × Nat)} (h : Paced cfg spans p) :
    Paced cfg (spans ++ answeredBy cfg code p .work) (p.act cfg code .work) := by
  unfold answeredBy
  cases works cfg code p with
  | rest he ha _ =>
    rw [he, ha]
    simpa using h
  | stop hp _ he ha _ =>
    have hout : ({ p with phase := .stopped } : Pruner ω σ).outstanding = p.outstanding :=
      (outstanding_waiting hp).symm
    rw [he, ha]
    simp only [Option.toList_none, List.map_nil, List.append_nil]
    exact ⟨hout ▸ h.calls, hout ▸ h.sorted, hout ▸ h.past, h.early, h.due⟩
  | call hp hd he ha _ =>
    rw [he, ha]
    simpa using paced_call h hp hd
  | answer start promise t hp _ _ he ha _ =>
    rw [he, ha]
    exact paced_answer h hp promise.report

theorem paced_act {spans : List (Nat × Nat)} (h : Paced cfg spans p) (x : Action) :
    Paced cfg (spans ++ answeredBy cfg code p x) (p.act cfg code x) := by
  have hnil {q : Pruner ω σ} (hq : Paced cfg spans q) : Paced cfg (spans ++ []) q := by
    rwa [List.append_nil]
  cases x with
  | operate op => exact hnil (h.congr rfl rfl rfl le_rfl)
  | direct promise => exact hnil (h.congr rfl rfl rfl le_rfl)
  | signal => exact hnil (h.congr rfl rfl rfl le_rfl)
  | elapse ms =>
    obtain ⟨t, he, hle, -⟩ := elapse_later cfg code p ms
    rw [he]
    exact hnil (h.congr rfl rfl rfl hle)
  | work => exact paced_work h

theorem paced_run (cfg : PrunerConfig) (code : SessionCode ω σ) (t : Table ω σ) (d : Promise)
    (xs : List Action) :
    Paced cfg (answered cfg code (start cfg t d) xs) ((start cfg t d).run cfg code xs) := by
  induction xs using List.reverseRecOn with
  | nil => exact paced_start cfg t d
  | append_singleton xs x ih =>
    rw [answered, gather_snoc, run_snoc]
    exact paced_act ih x

/-- If each call takes its time, there are only so many up to some time. -/
theorem length_filter_le {calls : List Nat} {interval : Nat} (hP : 0 < interval)
    (h : ∀ k s, calls[k]? = some s → (k + 1) * interval ≤ s) (time : Nat) :
    (calls.filter (· ≤ time)).length ≤ time / interval := by
  induction calls using List.reverseRecOn with
  | nil => exact Nat.zero_le _
  | append_singleton calls s ih =>
    have hrest : ∀ k s, calls[k]? = some s → (k + 1) * interval ≤ s := by
      intro k s' hk
      obtain ⟨hlt, -⟩ := List.getElem?_eq_some_iff.mp hk
      exact h k s' (by rw [List.getElem?_append_left hlt, hk])
    have hlast : (calls.length + 1) * interval ≤ s := h calls.length s (by simp)
    rw [List.filter_append, List.length_append]
    by_cases hs : s ≤ time
    · have hfit : calls.length + 1 ≤ time / interval := by
        rw [Nat.le_div_iff_mul_le hP]
        omega
      have hfilter := List.length_filter_le (fun x => decide (x ≤ time)) calls
      simp only [hs, decide_true, List.filter_cons_of_pos, List.filter_nil, List.length_singleton]
      omega
    · have hih := ih hrest
      simpa [hs] using hih

/-! No call late -/

structure OnTime (cfg : PrunerConfig) (p : Pruner ω σ) : Prop where
  calls : p.calls = (List.range p.calls.length).map fun k => (k + 1) * cfg.interval
  due : p.due = (p.calls.length + 1) * cfg.interval
  waiting : p.phase = .waiting → p.now ≤ p.due
  calling : ∀ start promise, p.phase = .calling start promise →
    ∃ t, answerTime start promise = some t ∧ p.now ≤ t ∧ t ≤ p.due

theorem onTime_start (cfg : PrunerConfig) (t : Table ω σ) (d : Promise) :
    OnTime cfg (start cfg t d) := by
  refine ⟨rfl, by simp [start], fun _ => Nat.zero_le _, ?_⟩
  intro s promise h
  unfold start at h
  split_ifs at h

theorem OnTime.congr {q : Pruner ω σ} (h : OnTime cfg p) (hcalls : q.calls = p.calls)
    (hphase : q.phase = p.phase) (hdue : q.due = p.due) (hnow : q.now = p.now) : OnTime cfg q := by
  refine ⟨?_, ?_, ?_, ?_⟩
  · rw [hcalls]
    exact h.calls
  · rw [hcalls, hdue]
    exact h.due
  · rw [hphase, hdue, hnow]
    exact h.waiting
  · rw [hphase, hdue, hnow]
    exact h.calling

theorem nextTime_onTime (h : OnTime cfg p) {t : Nat}
    (ht : t = p.now ∨ ∀ u, p.nextTime = some u → t ≤ u) : OnTime cfg { p with now := t } := by
  refine ⟨h.calls, h.due, ?_, ?_⟩
  · intro hp
    rcases ht with rfl | ht
    · exact h.waiting hp
    · have hp' : p.phase = .waiting := hp
      exact ht p.due (by simp only [nextTime, hp'])
  · intro start promise hp
    have hp' : p.phase = .calling start promise := hp
    obtain ⟨u, hu, hle, hdue⟩ := h.calling start promise hp'
    refine ⟨u, hu, ?_, hdue⟩
    rcases ht with rfl | ht
    · exact hle
    · exact ht u (by simp only [nextTime, hp', hu])

/-- The tick is seen when it is due, and so the next one is due an interval later. -/
theorem onTime_call (h : OnTime cfg p) (hp : p.phase = .waiting) (hd : p.due ≤ p.now)
    (hw : p.directory.Within cfg.interval) : OnTime cfg (p.call cfg) := by
  have hcalls : (p.call cfg).calls = p.calls ++ [p.now] := rfl
  have hnow : p.now = p.due := Nat.le_antisymm (h.waiting hp) hd
  have hdue : (p.call cfg).due = p.due + cfg.interval := by
    have hnext : (p.call cfg).due = nextTick cfg.interval p.due p.now := rfl
    rw [hnext, nextTick_soon (by omega)]
  refine ⟨?_, ?_, nofun, ?_⟩
  · rw [hcalls, List.length_append, List.length_singleton, List.range_succ, List.map_append,
      ← h.calls, hnow, h.due]
    rfl
  · rw [hdue, hcalls, h.due, List.length_append, List.length_singleton]
    exact (Nat.succ_mul _ _).symm
  · intro start promise hc
    obtain ⟨d, hdelay, hle⟩ := hw
    cases hc
    refine ⟨p.now + d, by simp [answerTime, hdelay], Nat.le_add_right _ _, ?_⟩
    rw [hdue, hnow]
    omega

theorem onTime_answer (h : OnTime cfg p) {start : Nat} {promise : Promise}
    (hp : p.phase = .calling start promise) (report : Except Failure (List ProxyStatus)) :
    OnTime cfg (p.apply code report) := by
  obtain ⟨t, -, hle, hdue⟩ := h.calling start promise hp
  obtain ⟨table, ph, he, hph⟩ := apply_fields code p report
  rw [he]
  refine ⟨h.calls, h.due, fun _ => hle.trans hdue, ?_⟩
  intro start' promise' hc
  rcases hph with rfl | rfl <;> cases hc

theorem onTime_act (h : OnTime cfg p) (x : Action)
    (hw : ∀ d, promiseBy cfg code p x = some d → d.Within cfg.interval) :
    OnTime cfg (p.act cfg code x) := by
  cases x with
  | operate op => exact h.congr rfl rfl rfl rfl
  | direct promise => exact h.congr rfl rfl rfl rfl
  | signal => exact h.congr rfl rfl rfl rfl
  | elapse ms =>
    obtain ⟨t, he, -, ht⟩ := elapse_later cfg code p ms
    rw [he]
    exact nextTime_onTime h ht
  | work =>
    cases works cfg code p with
    | rest he _ _ =>
      rw [he]
      exact h
    | stop _ _ he _ _ =>
      rw [he]
      refine ⟨h.calls, h.due, ?_, ?_⟩
      · intro hp
        cases hp
      · intro start promise hp
        cases hp
    | call hp hd he _ hb =>
      have hwithin := hw p.directory hb
      rw [he]
      exact onTime_call h hp hd hwithin
    | answer start promise t hp _ _ he _ _ =>
      rw [he]
      exact onTime_answer h hp promise.report

theorem onTime_run (t : Table ω σ) (d : Promise) (xs : List Action)
    (hw : ∀ q ∈ promises cfg code (start cfg t d) xs, q.Within cfg.interval) :
    OnTime cfg ((start cfg t d).run cfg code xs) := by
  induction xs using List.reverseRecOn with
  | nil => exact onTime_start cfg t d
  | append_singleton xs x ih =>
    rw [promises, gather_snoc, ← promises] at hw
    rw [run_snoc]
    apply onTime_act
    · apply ih
      intro q hq
      exact hw q (List.mem_append_left _ hq)
    · intro q hq
      apply hw q
      apply List.mem_append_right
      rw [hq]
      exact List.mem_singleton_self q

/-- Calls are made up to the present. -/
theorem Paced.now_of_call {spans : List (Nat × Nat)} (h : Paced cfg spans p) {s : Nat}
    (hs : s ∈ p.calls) : s ≤ p.now := by
  apply h.past
  rw [h.calls, List.mem_append, List.mem_map] at hs
  unfold moments
  rw [List.mem_append, List.mem_flatMap]
  rcases hs with ⟨span, hspan, rfl⟩ | hs
  · exact .inl ⟨span, hspan, by simp⟩
  · exact .inr hs

theorem length_calls_le {spans : List (Nat × Nat)} (hP : 0 < cfg.interval)
    (h : Paced cfg spans p) : p.calls.length ≤ p.now / cfg.interval := by
  have hall : p.calls.filter (· ≤ p.now) = p.calls := by
    rw [List.filter_eq_self]
    intro s hs
    simpa using h.now_of_call hs
  have hle := length_filter_le hP h.early p.now
  rwa [hall] at hle

/-- Unless it is told to stop, a pruner goes on until it crashes. -/
theorem going_run (t : Table ω σ) (d : Promise) (xs : List Action) (hs : Action.signal ∉ xs) :
    ((start cfg t d).run cfg code xs).signalled = false ∧
      ((start cfg t d).run cfg code xs).phase ≠ .stopped := by
  induction xs using List.reverseRecOn with
  | nil =>
    refine ⟨rfl, ?_⟩
    unfold start run
    simp only [List.foldl_nil]
    split_ifs <;> exact nofun
  | append_singleton xs x ih =>
    obtain ⟨hsignal, hphase⟩ := ih fun h => hs (List.mem_append_left _ h)
    rw [run_snoc]
    cases x with
    | operate op => exact ⟨hsignal, hphase⟩
    | direct promise => exact ⟨hsignal, hphase⟩
    | signal => exact absurd (List.mem_append_right xs (List.mem_singleton_self _)) hs
    | elapse ms =>
      obtain ⟨u, he, -⟩ := elapse_later cfg code ((start cfg t d).run cfg code xs) ms
      rw [he]
      exact ⟨hsignal, hphase⟩
    | work =>
      cases works cfg code ((start cfg t d).run cfg code xs) with
      | rest he _ _ =>
        rw [he]
        exact ⟨hsignal, hphase⟩
      | stop _ hs' _ _ _ =>
        rw [hsignal] at hs'
        cases hs'
      | call _ _ he _ _ =>
        rw [he]
        exact ⟨hsignal, nofun⟩
      | answer _ promise _ _ _ _ he _ _ =>
        obtain ⟨table, ph, ha, hph⟩ :=
          apply_fields code ((start cfg t d).run cfg code xs) promise.report
        rw [he, ha]
        refine ⟨hsignal, ?_⟩
        rcases hph with rfl | rfl <;> exact nofun

/-- A pruner that neither was told to stop nor has crashed makes every call as soon as it is due. -/
theorem length_calls_eq {spans : List (Nat × Nat)} (hP : 0 < cfg.interval)
    (hpaced : Paced cfg spans p) (h : OnTime cfg p) (hstop : p.phase ≠ .stopped)
    (hcrash : p.phase ≠ .crashed) :
    p.now ≤ (p.calls.length + 1) * cfg.interval ∧
      (p.Rest cfg code → p.calls.length = p.now / cfg.interval) := by
  have hdue := h.due
  constructor
  · cases hp : p.phase with
    | waiting =>
      rw [← hdue]
      exact h.waiting hp
    | calling start promise =>
      obtain ⟨t, -, hle, ht⟩ := h.calling start promise hp
      rw [← hdue]
      exact hle.trans ht
    | stopped => exact absurd hp hstop
    | crashed => exact absurd hp hcrash
  · intro hrest
    have hlt : p.now < (p.calls.length + 1) * cfg.interval := by
      rw [← hdue]
      cases resting_of_rest hrest with
      | waiting _ _ hlt => exact hlt
      | calling start promise hp hlt =>
        obtain ⟨t, ht, -, hle⟩ := h.calling start promise hp
        exact (hlt t ht).trans_le hle
      | finished hp => exact (hp.elim hstop hcrash).elim
    apply Nat.le_antisymm (length_calls_le hP hpaced)
    rw [← Nat.lt_succ_iff, Nat.div_lt_iff_lt_mul hP]
    exact hlt

/-! Crashes, and what becomes of the table -/

theorem crashed_apply {report : Except Failure (List ProxyStatus)}
    (h : (p.apply code report).phase = .crashed) : ∃ w s, (code.close w s).1 = false := by
  cases report with
  | error f => cases h
  | ok proxies =>
    rw [apply_ok] at h
    simp only at h
    split at h
    · cases h
    · rename_i hnone
      rw [Option.not_isSome_iff_eq_none] at hnone
      exact Table.evictAll_none hnone

theorem crashed_run (hP : 0 < cfg.interval) {t : Table ω σ} {d : Promise} {xs : List Action}
    (h : ((start cfg t d).run cfg code xs).phase = .crashed) :
    ∃ w s, (code.close w s).1 = false := by
  induction xs using List.reverseRecOn with
  | nil =>
    have hne : cfg.interval ≠ 0 := by omega
    simp [start, run, hne] at h
  | append_singleton xs x ih =>
    rw [run_snoc] at h
    cases x with
    | operate op => exact ih h
    | direct promise => exact ih h
    | signal => exact ih h
    | elapse ms =>
      obtain ⟨u, he, -⟩ := elapse_later cfg code ((start cfg t d).run cfg code xs) ms
      rw [he] at h
      exact ih h
    | work =>
      cases works cfg code ((start cfg t d).run cfg code xs) with
      | rest he _ _ =>
        rw [he] at h
        exact ih h
      | stop _ _ he _ _ =>
        rw [he] at h
        cases h
      | call _ _ he _ _ =>
        rw [he] at h
        cases h
      | answer _ _ _ _ _ _ he _ _ =>
        rw [he] at h
        exact crashed_apply h

theorem table_act (cfg : PrunerConfig) (code : SessionCode ω σ) (p : Pruner ω σ) (x : Action) :
    (p.act cfg code x).table = (performedBy cfg code p x).foldl (Table.perform code) p.table := by
  cases x with
  | operate op => rfl
  | direct promise => rfl
  | signal => rfl
  | elapse ms =>
    obtain ⟨u, he, -⟩ := elapse_later cfg code p ms
    rw [he]
    rfl
  | work =>
    simp only [performedBy]
    cases works cfg code p with
    | rest he ha _ =>
      rw [he, ha]
      rfl
    | stop _ _ he ha _ =>
      rw [he, ha]
      rfl
    | call _ _ he ha _ =>
      rw [he, ha]
      rfl
    | answer start promise _ _ _ _ he ha _ =>
      rw [he, ha, Option.toList_some, List.flatMap_singleton]
      cases promise.report with
      | error f => rfl
      | ok proxies =>
        rw [apply_ok]
        rfl

theorem table_run (cfg : PrunerConfig) (code : SessionCode ω σ) (p : Pruner ω σ)
    (xs : List Action) :
    (p.run cfg code xs).table =
      (performed cfg code p xs).foldl (Table.perform code) p.table := by
  induction xs using List.reverseRecOn with
  | nil => rfl
  | append_singleton xs x ih =>
    rw [run_snoc, table_act, ih, performed, gather_snoc, List.foldl_append]

/-- For every interval, whatever others do, and whatever the directory says and whenever it says it:
each call begins after the answer to the one before, and not before its tick. If every call is
answered within an interval, each begins right at its tick, and no tick is left out until the pruner
is told to stop or crashes, which takes a session whose closing falls apart. The pruner changes the
table only by a pass, where an answer comes that is no failure. Waiting and shutting down, as the
pruner does it, are runs of this kind. -/
theorem on_schedule (cfg : PrunerConfig) (hP : 0 < cfg.interval) (code : SessionCode ω σ)
    (t : Table ω σ) (d : Promise) (xs : List Action) :
    let p := (start cfg t d).run cfg code xs
    let spans := answered cfg code (start cfg t d) xs
    (p.calls = spans.map Prod.fst ++ p.outstanding.toList ∧
      (moments spans p.outstanding).Pairwise (· ≤ ·)) ∧
    (∀ k s, p.calls[k]? = some s → (k + 1) * cfg.interval ≤ s) ∧
    (∀ time, (p.calls.filter (· ≤ time)).length ≤ time / cfg.interval) ∧
    ((∀ q ∈ promises cfg code (start cfg t d) xs, q.Within cfg.interval) →
      p.calls = (List.range p.calls.length).map (fun k => (k + 1) * cfg.interval) ∧
      (Action.signal ∉ xs → p.phase ≠ .crashed →
        p.now ≤ (p.calls.length + 1) * cfg.interval ∧
        (p.Rest cfg code → p.calls.length = p.now / cfg.interval))) ∧
    (p.phase = .crashed → ∃ w s, (code.close w s).1 = false) ∧
    p.table = (performed cfg code (start cfg t d) xs).foldl (Table.perform code) t ∧
    (p.Rest cfg code → ∀ ms,
      Passes cfg code p (p.wait cfg code ms) (p.now + ms) ∧
      ∃ time ≤ p.now + ms,
        Passes cfg code (p.act cfg code .signal) (p.shutdown cfg code ms).2 time) := by
  intro p spans
  have hpaced : Paced cfg spans p := paced_run cfg code t d xs
  refine ⟨⟨hpaced.calls, hpaced.sorted⟩, hpaced.early, length_filter_le hP hpaced.early, ?_,
    crashed_run hP, table_run cfg code (start cfg t d) xs, ?_⟩
  · intro hw
    have htime : OnTime cfg p := onTime_run t d xs hw
    refine ⟨htime.calls, ?_⟩
    intro hs hcrash
    exact length_calls_eq hP hpaced htime (going_run t d xs hs).2 hcrash
  · intro hrest ms
    exact ⟨wait_passes hP hrest ms, shutdown_passes hP p ms⟩

/-- A directory that takes more than two intervals for its first answer and then fails at once: the
second call is made up for when the answer comes, and the third one is back in step. -/
theorem on_schedule_slow :
    let cfg : PrunerConfig := { interval := 10 }
    let code : SessionCode Unit Unit :=
      ⟨fun _ _ => .done (.ok (), ()), fun _ _ => (some true, (), ()),
        fun _ _ _ => .done (.ok true, (), ()), fun _ _ => (true, ())⟩
    let packet : Packet := ⟨0, "tcp", "", 7, "", [], ⟨0⟩⟩
    let slow : Promise := ⟨some 25, .ok []⟩
    let xs : List Action := [.elapse 10, .work, .elapse 12,
      .operate (.dispatch (.detached {}) packet), .direct ⟨some 0, .error .channelClosed⟩,
      .elapse 50, .work, .work, .work, .elapse 50, .work]
    let p := (start cfg { world := () } slow).run cfg code xs
    0 < cfg.interval ∧ p.calls = [10, 35, 40] ∧
      answered cfg code (start cfg { world := () } slow) xs = [(10, 35), (35, 35)] ∧
      p.table.closedIds = [7] ∧
      (p.calls.filter (· ≤ 39)).length ≤ 39 / cfg.interval := by
  intro cfg code packet slow xs p
  have hP : 0 < cfg.interval := by decide
  obtain ⟨-, -, hcount, -⟩ := on_schedule cfg hP code { world := () } slow xs
  refine ⟨hP, ?_, ?_, ?_, hcount 39⟩
  · decide +kernel
  · decide +kernel
  · decide +kernel

end Pruner

end Intercept
