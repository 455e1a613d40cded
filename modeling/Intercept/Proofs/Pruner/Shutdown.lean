import Intercept.Proofs.Pruner.Ended
import Intercept.Proofs.Pruner.Passes

/-!
Stopping a pruner. A call that is outstanding stays so until its answer is there, whatever others do
meanwhile, and the answer is then applied as a whole; a signal is looked at only in between. So a
pruner without a call ends at once, and one whose answer takes longer than the wait is left behind
with its call.
-/

namespace Intercept.Pruner

variable {ω σ : Type} {cfg : PrunerConfig} {code : SessionCode ω σ} {p : Pruner ω σ}
  {begun : Nat} {promise : Promise}

/-! A call that is outstanding -/

/-- The call is outstanding, and its answer is not overdue. -/
structure Awaits (begun : Nat) (promise : Promise) (p : Pruner ω σ) : Prop where
  phase : p.phase = .calling begun promise
  intime : ∀ t, answerTime begun promise = some t → p.now ≤ t

theorem awaits_rest (hp : p.phase = .calling begun promise) (h : p.Rest cfg code) :
    Awaits begun promise p := by
  refine ⟨hp, ?_⟩
  intro t ht
  cases resting_of_rest h with
  | waiting hp' => rw [hp] at hp'; cases hp'
  | calling b pr hp' hlt =>
    rw [hp] at hp'
    cases hp'
    exact Nat.le_of_lt (hlt t ht)
  | finished hp' => rcases hp' with hp' | hp' <;> rw [hp] at hp' <;> cases hp'

/-- Nothing but the answer ends a call. -/
theorem act_awaits (cfg : PrunerConfig) (code : SessionCode ω σ)
    (h : Awaits begun promise p) (x : Action) :
    (Awaits begun promise (p.act cfg code x) ∧ (p.act cfg code x).calls = p.calls ∧
      (p.act cfg code x).table = p.untouched code [x]) ∨
    (x = .work ∧ answerTime begun promise = some p.now ∧
      p.act cfg code x = p.apply code promise.report) := by
  cases x with
  | operate op => exact .inl ⟨⟨h.phase, h.intime⟩, rfl, rfl⟩
  | direct d => exact .inl ⟨⟨h.phase, h.intime⟩, rfl, rfl⟩
  | signal => exact .inl ⟨⟨h.phase, h.intime⟩, rfl, rfl⟩
  | elapse ms =>
    obtain ⟨t, he, -, ht⟩ := elapse_later cfg code p ms
    rw [he]
    refine .inl ⟨⟨h.phase, ?_⟩, rfl, rfl⟩
    intro u hu
    rcases ht with rfl | ht
    · exact h.intime u hu
    · exact ht u (by simp only [nextTime, h.phase, hu])
  | work =>
    have hp := h.phase
    cases works cfg code p with
    | rest he _ _ =>
      rw [he]
      exact .inl ⟨h, rfl, rfl⟩
    | stop hp' => rw [hp] at hp'; cases hp'
    | call hp' => rw [hp] at hp'; cases hp'
    | answer b pr t hp' ht hle he _ _ =>
      rw [hp] at hp'
      cases hp'
      have hnow : p.now = t := Nat.le_antisymm (h.intime t ht) hle
      exact .inr ⟨rfl, hnow ▸ ht, he⟩

/-- What an answer does if it is applied as a whole: every session goes whose proxy it does not
report alive, and is closed once; all others stay. -/
def Applied (report : Except Failure (List ProxyStatus)) (before after : Pruner ω σ) : Prop :=
  after.phase = .waiting ∧ after.calls = before.calls ∧
    match report with
    | .error _ => after.table = before.table
    | .ok proxies =>
      after.table.tracked = before.table.tracked.filter (·.proxy ∈ Table.aliveIds proxies) ∧
      after.table.events = before.table.events ++
        (before.table.tracked.filter (·.proxy ∉ Table.aliveIds proxies)).map Tracked.closing

theorem apply_applied (hn : p.table.ids.Nodup) (hclose : p.table.Steady code)
    (report : Except Failure (List ProxyStatus)) : Applied report p (p.apply code report) := by
  cases report with
  | error f => exact ⟨rfl, rfl, rfl⟩
  | ok proxies =>
    obtain ⟨w, hprune⟩ := Table.prune_steady hn hclose (Table.aliveIds proxies)
    rw [apply_ok, hprune]
    exact ⟨rfl, rfl, Table.tracked_without_stale _ w, rfl⟩

/-- Whatever happens from here on: as long as the answer is not there the call is outstanding, and
nothing but what others do becomes of the table; and when the answer comes, at its time, it is
applied as a whole. -/
def SeesThrough (cfg : PrunerConfig) (code : SessionCode ω σ) (begun : Nat) (promise : Promise)
    (p : Pruner ω σ) : Prop :=
  ∀ xs, (Awaits begun promise (p.run cfg code xs) ∧ (p.run cfg code xs).calls = p.calls ∧
      (p.run cfg code xs).table = p.untouched code xs) ∨
    ∃ before after, xs = before ++ .work :: after ∧
      let q := p.run cfg code before
      Awaits begun promise q ∧ q.calls = p.calls ∧ q.table = p.untouched code before ∧
        answerTime begun promise = some q.now ∧ Applied promise.report q (q.act cfg code .work)

theorem sound_act (hs : p.table.Sound) (x : Action) : (p.act cfg code x).table.Sound :=
  (grown_act hs x).1

theorem sees_through (cfg : PrunerConfig) (hclose : ∀ w s, (code.close w s).1 = true)
    (hs : p.table.Sound) (h : Awaits begun promise p) : SeesThrough cfg code begun promise p := by
  intro xs
  induction xs generalizing p with
  | nil => exact .inl ⟨h, rfl, rfl⟩
  | cons x xs ih =>
    rcases act_awaits cfg code h x with ⟨hnext, hcalls, htable⟩ |
      ⟨rfl, htime, happly⟩
    · rw [run_cons, ← untouched_cons x xs htable, ← hcalls]
      rcases ih (sound_act hs x) hnext with hwaits | ⟨before, after, rfl, hbefore⟩
      · exact .inl hwaits
      · refine .inr ⟨x :: before, after, rfl, ?_⟩
        rw [run_cons, ← untouched_cons x before htable]
        exact hbefore
    · refine .inr ⟨[], xs, rfl, h, rfl, rfl, htime, ?_⟩
      have hwork : (p.run cfg code []).act cfg code .work = p.apply code promise.report := happly
      rw [hwork]
      exact apply_applied (Table.ids_nodup hs) (fun e _ w => hclose w e.session) promise.report

/-! The wait for the end -/

theorem settle_of_rest (h : p.Rest cfg code) : p.settle cfg code = p := by
  have hnone : p.step? cfg code = none := h
  simp only [settle, steps, hnone]

/-- A pruner that sees the signal before its tick stops. -/
theorem settle_stop (hp : p.phase = .waiting) (hs : p.signalled = true) (hd : p.now < p.due) :
    p.settle cfg code = { p with phase := .stopped } := by
  have hstep : p.step? cfg code = some { p with phase := .stopped } := by
    simp [step?, hp, hs, hd]
  have hdone : step? cfg code { p with phase := .stopped } = none := rfl
  simp only [settle, steps, hstep, hdone]

/-- Whoever waits for the end and sees it has waited for the end. -/
theorem awaitEnd_true (deadline fuel : Nat) (p : Pruner ω σ)
    (h : (awaitEnd cfg code deadline fuel p).1 = true) :
    (awaitEnd cfg code deadline fuel p).2.isFinished = true := by
  induction fuel generalizing p with
  | zero => exact h
  | succ fuel ih =>
    rw [awaitEnd] at h ⊢
    split
    · assumption
    · rename_i hrunning
      rw [if_neg hrunning] at h
      cases hn : p.nextTime with
      | none =>
        rw [hn] at h
        cases h
      | some t =>
        rw [hn] at h
        simp only at h ⊢
        split
        · rename_i hlt
          rw [if_pos hlt] at h
          exact ih _ h
        · rename_i hlt
          rw [if_neg hlt] at h
          cases h

theorem shutdown_eq {timeout : Nat} (hT : 0 < timeout) (p : Pruner ω σ) :
    p.shutdown cfg code timeout = awaitEnd cfg code (p.now + timeout) (timeout + 1)
      (settle cfg code { p with signalled := true }) := by
  rw [shutdown, if_neg (by omega)]

theorem awaitEnd_finished (h : p.isFinished = true) (deadline fuel : Nat) :
    awaitEnd cfg code deadline (fuel + 1) p = (true, p) := by
  rw [awaitEnd, if_pos h]

/-- Without a call to wait for, a pruner ends at once. -/
theorem shutdown_idle (h : p.Rest cfg code) (ho : p.outstanding = none) {timeout : Nat}
    (hT : 0 < timeout) :
    ∃ ph, p.shutdown cfg code timeout = (true, { p with signalled := true, phase := ph }) ∧
      (ph = .stopped ∨ ph = .crashed) := by
  rw [shutdown_eq hT]
  cases resting_of_rest h with
  | waiting hp _ hd =>
    have hsettle : settle cfg code { p with signalled := true } =
        { p with signalled := true, phase := .stopped } := settle_stop hp rfl hd
    rw [hsettle]
    exact ⟨.stopped, awaitEnd_finished rfl _ timeout, .inl rfl⟩
  | calling begun promise hp _ =>
    rw [outstanding_calling hp] at ho
    cases ho
  | finished hp =>
    have hrest : Resting ({ p with signalled := true } : Pruner ω σ) := .finished hp
    rw [settle_of_rest hrest.rest]
    have hended : ({ p with signalled := true } : Pruner ω σ).isFinished = true :=
      isFinished_iff.mpr hp
    exact ⟨p.phase, awaitEnd_finished hended _ timeout, hp⟩

/-- An answer that takes longer than the wait is not waited for. -/
theorem shutdown_busy (hp : p.phase = .calling begun promise) {timeout : Nat}
    (hT : 0 < timeout) (hlate : ∀ t, answerTime begun promise = some t → p.now + timeout < t) :
    p.shutdown cfg code timeout =
      (false, { p with signalled := true, now := p.now + timeout }) := by
  have hrest : Resting ({ p with signalled := true } : Pruner ω σ) := by
    refine .calling begun promise hp ?_
    intro t ht
    exact (Nat.le_add_right p.now timeout).trans_lt (hlate t ht)
  have hrest' : Resting ({ p with signalled := true, now := p.now + timeout } : Pruner ω σ) :=
    .calling begun promise hp hlate
  have hrunning : ¬ ({ p with signalled := true } : Pruner ω σ).isFinished = true := by
    simp [isFinished, hp]
  have hnext : ({ p with signalled := true } : Pruner ω σ).nextTime =
      answerTime begun promise := by
    simp only [nextTime, hp]
  rw [shutdown_eq hT, settle_of_rest hrest.rest, awaitEnd, if_neg hrunning, hnext]
  cases ht : answerTime begun promise with
  | none => rfl
  | some t =>
    have hlt := hlate t ht
    simp only
    rw [if_neg (by omega), settle_of_rest hrest'.rest]

/-! The wait while others go on -/

theorem now_act (p : Pruner ω σ) (x : Action) : p.now ≤ (p.act cfg code x).now := by
  cases x with
  | operate op => exact le_rfl
  | direct d => exact le_rfl
  | signal => exact le_rfl
  | elapse ms =>
    obtain ⟨t, he, hle, -⟩ := elapse_later cfg code p ms
    rw [he]
    exact hle
  | work =>
    cases hq : p.step? cfg code with
    | none => simp [act, hq]
    | some q => simp [act, hq, now_step hq]

theorem now_run (cfg : PrunerConfig) (code : SessionCode ω σ) (p : Pruner ω σ)
    (xs : List Action) : p.now ≤ (p.run cfg code xs).now := by
  induction xs generalizing p with
  | nil => exact le_rfl
  | cons x xs ih => exact (now_act p x).trans (ih _)

/-- As long as time has not come to the answer, the pruner has not ended. -/
theorem SeesThrough.running (h : SeesThrough cfg code begun promise p) {deadline : Nat}
    (hlate : ∀ t, answerTime begun promise = some t → deadline < t) (xs : List Action)
    (hnow : (p.run cfg code xs).now ≤ deadline) : (p.run cfg code xs).isFinished = false := by
  rcases h xs with ⟨hwaits, -⟩ | ⟨before, after, rfl, -, -, -, htime, -⟩
  · simp [isFinished, hwaits.phase]
  · have hlt := hlate _ htime
    have hle := now_run cfg code (p.run cfg code before) (.work :: after)
    rw [← run_append] at hle
    omega

structure Stopping (p : Pruner ω σ) : Prop where
  phase : p.phase = .waiting
  signalled : p.signalled = true
  early : p.now < p.due

theorem act_stopping (cfg : PrunerConfig) (code : SessionCode ω σ)
    (h : p.Stopping) (x : Action) :
    ((p.act cfg code x).Stopping ∧ x ≠ .work ∨ (p.act cfg code x).isFinished = true) ∧
      (p.act cfg code x).calls = p.calls := by
  have hstep : p.step? cfg code = some { p with phase := .stopped } := by
    simp [step?, h.phase, h.signalled, h.early]
  cases x with
  | operate op => exact ⟨.inl ⟨⟨h.phase, h.signalled, h.early⟩, by simp⟩, rfl⟩
  | direct d => exact ⟨.inl ⟨⟨h.phase, h.signalled, h.early⟩, by simp⟩, rfl⟩
  | signal => exact ⟨.inl ⟨⟨h.phase, rfl, h.early⟩, by simp⟩, rfl⟩
  | elapse ms =>
    have hsame : p.act cfg code (.elapse ms) = p := by simp only [act, elapse, hstep]
    rw [hsame]
    exact ⟨.inl ⟨h, by simp⟩, rfl⟩
  | work =>
    have hstop : p.act cfg code .work = { p with phase := .stopped } := by simp [act, hstep]
    rw [hstop]
    exact ⟨.inr rfl, rfl⟩

theorem Stopping.run (h : p.Stopping) {xs : List Action} (hx : Action.work ∈ xs) :
    (p.run cfg code xs).isFinished = true ∧ (p.run cfg code xs).calls = p.calls := by
  induction xs generalizing p with
  | nil => cases hx
  | cons x xs ih =>
    obtain ⟨hnext, hcalls⟩ := act_stopping cfg code h x
    rw [run_cons, ← hcalls]
    rcases hnext with ⟨hnext, hne⟩ | hended
    · exact ih hnext ((List.mem_cons.mp hx).resolve_left (Ne.symm hne))
    · obtain ⟨hphase, hcalls', -⟩ := finished_run cfg code hended xs
      refine ⟨?_, hcalls'⟩
      rw [isFinished_iff] at hended ⊢
      rwa [hphase]

/-- Without a call to wait for, the first thing that the pruner does after the signal is to end. -/
theorem idle_run (h : p.Rest cfg code) (ho : p.outstanding = none) {xs : List Action}
    (hx : Action.work ∈ xs) :
    ((p.act cfg code .signal).run cfg code xs).isFinished = true ∧
      ((p.act cfg code .signal).run cfg code xs).calls = p.calls := by
  cases resting_of_rest h with
  | waiting hp _ hd =>
    have hstopping : (p.act cfg code .signal).Stopping := ⟨hp, rfl, hd⟩
    exact hstopping.run hx
  | calling begun promise hp _ =>
    rw [outstanding_calling hp] at ho
    cases ho
  | finished hp =>
    have hended : (p.act cfg code .signal).isFinished = true := isFinished_iff.mpr hp
    obtain ⟨hphase, hcalls, -⟩ := finished_run cfg code hended xs
    refine ⟨?_, hcalls⟩
    rw [isFinished_iff] at hended ⊢
    rwa [hphase]

theorem sound_run (hs : p.table.Sound) (xs : List Action) : (p.run cfg code xs).table.Sound := by
  rw [table_run]
  exact (grown_performed hs _).1

/-- A wait that sees the end sees a pruner that was told to end. -/
theorem shutdown_stopped (hP : 0 < cfg.interval) (hclose : ∀ w s, (code.close w s).1 = true)
    (world : ω) (ops : List Operation) (d : Promise) (xs : List Action) {timeout : Nat}
    (hT : 0 < timeout)
    (h : (((start cfg (Table.after code world ops) d).run cfg code xs).shutdown cfg code
      timeout).1 = true) :
    (((start cfg (Table.after code world ops) d).run cfg code xs).shutdown cfg code
      timeout).2.phase = .stopped := by
  set p := (start cfg (Table.after code world ops) d).run cfg code xs
  obtain ⟨-, -, -, -, ys, -, hrun⟩ : ∃ t ≤ p.now + timeout,
      Passes cfg code (p.act cfg code .signal) (p.shutdown cfg code timeout).2 t :=
    shutdown_passes hP p timeout
  have hended : (p.shutdown cfg code timeout).2.isFinished = true := by
    rw [shutdown_eq hT] at h ⊢
    exact awaitEnd_true _ _ _ h
  refine (isFinished_iff.mp hended).resolve_right ?_
  intro hcrashed
  have hwhole : (p.shutdown cfg code timeout).2 = (start cfg (Table.after code world ops) d).run
      cfg code (xs ++ .signal :: ys) := by
    rw [run_append]
    exact hrun
  rw [hwhole] at hcrashed
  obtain ⟨w, s, hfalse⟩ := crashed_run hP hcrashed
  rw [hclose w s] at hfalse
  cases hfalse

/-- For every pruner on a table of whatever history, whatever others do and whatever the directory
says, as long as closing a session does not fall apart, and for every time to wait. Without a call
outstanding the pruner ends while no time goes by. If the answer to an outstanding call takes longer
than the wait, the wait ends when its time is over, with the call still outstanding; what others do
in that time makes no difference. An outstanding call is seen through in any case, whether or not a
wait for the end was given up. And once a wait has seen the end, the pruner makes no call any more
and takes no session out. -/
theorem stops_in_between (cfg : PrunerConfig) (hP : 0 < cfg.interval) (code : SessionCode ω σ)
    (hclose : ∀ w s, (code.close w s).1 = true) (world : ω) (ops : List Operation) (d : Promise)
    (xs : List Action) (timeout : Nat) (hT : 0 < timeout) :
    let p := (start cfg (Table.after code world ops) d).run cfg code xs
    let r := p.shutdown cfg code timeout
    p.Rest cfg code →
    (p.outstanding = none →
      (r.1 = true ∧ r.2.now = p.now ∧ r.2.calls = p.calls ∧ r.2.table = p.table) ∧
      ∀ ys, Action.work ∈ ys →
        let q := (p.act cfg code .signal).run cfg code ys
        q.isFinished = true ∧ q.calls = p.calls) ∧
    (∀ begun promise, p.phase = .calling begun promise →
      SeesThrough cfg code begun promise p ∧
      ((∀ t, answerTime begun promise = some t → p.now + timeout < t) →
        (r.1 = false ∧ r.2.now = p.now + timeout ∧ r.2.calls = p.calls ∧ r.2.table = p.table ∧
          r.2.phase = .calling begun promise ∧ SeesThrough cfg code begun promise r.2) ∧
        ∀ ys, let q := (p.act cfg code .signal).run cfg code ys
          q.now ≤ p.now + timeout → q.isFinished = false)) ∧
    (r.1 = true → r.2.phase = .stopped ∧ ∀ ys,
      let q := r.2.run cfg code ys
      q.phase = .stopped ∧ q.calls = r.2.calls ∧ q.table = r.2.untouched code ys) := by
  intro p r hrest
  have hs : p.table.Sound := sound_run (Table.sound_after code world ops) xs
  refine ⟨?_, ?_, ?_⟩
  · intro hidle
    obtain ⟨ph, hr, -⟩ : ∃ ph, r = (true, { p with signalled := true, phase := ph }) ∧
        (ph = .stopped ∨ ph = .crashed) := shutdown_idle hrest hidle hT
    rw [hr]
    exact ⟨⟨rfl, rfl, rfl, rfl⟩, fun ys hwork => idle_run hrest hidle hwork⟩
  · intro begun promise hp
    have hthrough : SeesThrough cfg code begun promise p :=
      sees_through cfg hclose hs (awaits_rest hp hrest)
    refine ⟨hthrough, ?_⟩
    intro hlate
    have hr : r = (false, { p with signalled := true, now := p.now + timeout }) :=
      shutdown_busy hp hT hlate
    have hwaits : Awaits begun promise r.2 := by
      rw [hr]
      exact ⟨hp, fun t ht => Nat.le_of_lt (hlate t ht)⟩
    have hs' : r.2.table.Sound := by
      rw [hr]
      exact hs
    have hthrough' := sees_through cfg hclose hs' hwaits
    rw [hr] at hthrough' ⊢
    exact ⟨⟨rfl, rfl, rfl, rfl, hp, hthrough'⟩,
      fun ys hnow => hthrough.running hlate (.signal :: ys) hnow⟩
  · intro htrue
    have hstopped : r.2.phase = .stopped :=
      shutdown_stopped hP hclose world ops d xs hT htrue
    refine ⟨hstopped, ?_⟩
    intro ys
    obtain ⟨hphase, hcalls, htable⟩ := finished_run cfg code (isFinished_iff.mpr (.inl hstopped)) ys
    exact ⟨hphase.trans hstopped, hcalls, htable⟩

/-- The wait is over before the answer is there. When it comes the session goes all the same, and
after that the pruner sees the signal. -/
theorem stops_after_answer :
    let cfg : PrunerConfig := { interval := 10 }
    let code : SessionCode Unit Unit :=
      ⟨fun _ _ => .done (.ok (), ()), fun _ _ => (some true, (), ()),
        fun _ _ _ => .done (.ok true, (), ()), fun _ _ => (true, ())⟩
    let slow : Promise := ⟨some 8, .ok []⟩
    let p := (start cfg (Table.after code ()
      [.dispatch (.detached {}) ⟨0, "tcp", "", 7, "", [], ⟨0⟩⟩]) slow).run cfg code
      [.elapse 10, .work]
    let r := p.shutdown cfg code 5
    let q := r.2.run cfg code [.elapse 100, .work, .work, .elapse 100]
    (0 < cfg.interval ∧ 0 < 5 ∧ p.Rest cfg code ∧ p.phase = .calling 10 slow ∧
      ∀ t, answerTime 10 slow = some t → p.now + 5 < t) ∧
    (r.1 = false ∧ r.2.now = 15 ∧ r.2.table.ids = [7] ∧ SeesThrough cfg code 10 slow r.2) ∧
    (q.table.closedIds = [7] ∧ q.calls = [10] ∧ q.isFinished = true ∧ q.now = 118) := by
  intro cfg code slow p r q
  have hrest : p.Rest cfg code := rfl
  have hlate : ∀ t, answerTime 10 slow = some t → p.now + 5 < t := by
    intro t ht
    cases ht
    decide
  obtain ⟨-, hbusy, -⟩ := stops_in_between cfg (by decide) code (fun _ _ => rfl) ()
    [.dispatch (.detached {}) ⟨0, "tcp", "", 7, "", [], ⟨0⟩⟩] slow [.elapse 10, .work]
    5 (by decide) hrest
  obtain ⟨-, hwait⟩ := hbusy 10 slow rfl
  obtain ⟨⟨hfalse, hnow, -, htable, -, hthrough⟩, -⟩ := hwait hlate
  refine ⟨⟨by decide, by decide, hrest, rfl, hlate⟩, ⟨hfalse, hnow, ?_, hthrough⟩, ?_⟩
  · rw [htable]
    rfl
  · decide +kernel

end Intercept.Pruner
