import Intercept.Proofs.Session.Lifecycle
import Intercept.Session.Pruner

/-!
Runs of a pruner. Others use the table, change what the directory is going to say, and give the
signal to stop; the pruner does what is due, one thing at a time; and time goes on as long as
nothing is due. Waiting and shutting down are such runs: what is due at once is soon done, and
between two things that come due some time goes by, so neither of them runs out of rounds.
-/

namespace Intercept.Pruner

variable {ω σ : Type} (cfg : PrunerConfig) (code : SessionCode ω σ)

inductive Action where
  | operate (op : Operation)
  | direct (promise : Promise)
  | signal
  | elapse (ms : Nat)
  | work

def Action.own : Action → Bool
  | .elapse _ | .work => true
  | _ => false

def Rest (p : Pruner ω σ) : Prop := p.step? cfg code = none

/-- Lets time go on, no further than to what comes due next, and not at all while something is
due. -/
def elapse (ms : Nat) (p : Pruner ω σ) : Pruner ω σ :=
  match p.step? cfg code, p.nextTime with
  | some _, _ => p
  | none, some t => { p with now := min (p.now + ms) t }
  | none, none => { p with now := p.now + ms }

def act (p : Pruner ω σ) : Action → Pruner ω σ
  | .operate op => p.withTable (p.table.perform code op)
  | .direct promise => p.setDirectory promise
  | .signal => { p with signalled := true }
  | .elapse ms => p.elapse cfg code ms
  | .work => (p.step? cfg code).getD p

def run (p : Pruner ω σ) (xs : List Action) : Pruner ω σ := xs.foldl (act cfg code) p

def gather {α : Type} (f : Pruner ω σ → Action → List α) : Pruner ω σ → List Action → List α
  | _, [] => []
  | p, x :: xs => f p x ++ gather f (p.act cfg code x) xs

variable {cfg code} {p q : Pruner ω σ}

theorem run_append (p : Pruner ω σ) (xs ys : List Action) :
    p.run cfg code (xs ++ ys) = (p.run cfg code xs).run cfg code ys := List.foldl_append

theorem run_snoc (p : Pruner ω σ) (xs : List Action) (x : Action) :
    p.run cfg code (xs ++ [x]) = (p.run cfg code xs).act cfg code x := run_append p xs [x]

theorem gather_append {α : Type} (f : Pruner ω σ → Action → List α) (p : Pruner ω σ)
    (xs ys : List Action) :
    gather cfg code f p (xs ++ ys) =
      gather cfg code f p xs ++ gather cfg code f (p.run cfg code xs) ys := by
  induction xs generalizing p with
  | nil => rfl
  | cons x xs ih =>
    rw [List.cons_append, gather, ih, gather, List.append_assoc]
    rfl

theorem gather_snoc {α : Type} (f : Pruner ω σ → Action → List α) (p : Pruner ω σ)
    (xs : List Action) (x : Action) :
    gather cfg code f p (xs ++ [x]) =
      gather cfg code f p xs ++ f (p.run cfg code xs) x := by
  rw [gather_append, gather, gather, List.append_nil]

/-! One thing that is due -/

inductive Does (cfg : PrunerConfig) (code : SessionCode ω σ) (p : Pruner ω σ) :
    Pruner ω σ → Prop where
  | stop : p.phase = .waiting → p.signalled = true → Does cfg code p { p with phase := .stopped }
  | call : p.phase = .waiting → p.due ≤ p.now → Does cfg code p (p.call cfg)
  | answer (start : Nat) (promise : Promise) (t : Nat) :
      p.phase = .calling start promise → answerTime start promise = some t → t ≤ p.now →
      Does cfg code p (p.apply code promise.report)

theorem does_of_step (h : p.step? cfg code = some q) : Does cfg code p q := by
  unfold step? at h
  split at h
  · rename_i hp
    split at h
    · rename_i hs
      rw [Bool.and_eq_true] at hs
      cases h
      exact .stop hp hs.1
    · split at h
      · rename_i hd
        cases h
        exact .call hp hd
      · cases h
  · rename_i start promise hp
    split at h
    · rename_i t ht
      split at h
      · rename_i hle
        cases h
        exact .answer start promise t hp ht hle
      · cases h
    · cases h
  · cases h
  · cases h

inductive Resting (p : Pruner ω σ) : Prop where
  | waiting : p.phase = .waiting → p.signalled = false → p.now < p.due → Resting p
  | calling (start : Nat) (promise : Promise) : p.phase = .calling start promise →
      (∀ t, answerTime start promise = some t → p.now < t) → Resting p
  | finished : p.phase = .stopped ∨ p.phase = .crashed → Resting p

theorem resting_of_rest (h : p.Rest cfg code) : Resting p := by
  unfold Rest step? at h
  cases hp : p.phase with
  | waiting =>
    simp only [hp] at h
    by_cases hd : p.now < p.due
    · cases hs : p.signalled with
      | true => simp [hs, hd] at h
      | false => exact .waiting hp hs hd
    · have hle : p.due ≤ p.now := by omega
      rw [if_pos hle] at h
      split at h <;> cases h
  | calling start promise =>
    simp only [hp] at h
    apply Resting.calling start promise hp
    intro t ht
    rw [ht] at h
    by_contra hle
    have hdue : t ≤ p.now := by omega
    simp [hdue] at h
  | stopped => exact .finished (.inl hp)
  | crashed => exact .finished (.inr hp)

theorem Resting.rest (h : Resting p) : p.Rest cfg code := by
  unfold Rest step?
  cases h with
  | waiting hp hs hd =>
    have hle : ¬ p.due ≤ p.now := by omega
    simp [hp, hs, hle]
  | calling start promise hp ht =>
    simp only [hp]
    split
    · rename_i t he
      have hle : ¬ t ≤ p.now := by
        have hlt := ht t he
        omega
      simp [hle]
    · rfl
  | finished hp => rcases hp with hp | hp <;> simp [hp]

theorem nextTime_of_resting (h : Resting p) {t : Nat} (ht : p.nextTime = some t) : p.now < t := by
  cases h with
  | waiting hp _ hd =>
    simp only [nextTime, hp, Option.some.injEq] at ht
    omega
  | calling start promise hp hlt =>
    simp only [nextTime, hp] at ht
    exact hlt t ht
  | finished hp => rcases hp with hp | hp <;> simp [nextTime, hp] at ht

/-- Rest lasts until the next thing comes due. -/
theorem resting_later (h : Resting p) {t : Nat} (hlt : ∀ u, p.nextTime = some u → t < u) :
    Resting { p with now := t } := by
  cases h with
  | waiting hp hs _ => exact .waiting hp hs (hlt p.due (by simp only [nextTime, hp]))
  | calling start promise hp _ =>
    refine .calling start promise hp ?_
    intro u hu
    exact hlt u (by simp only [nextTime, hp, hu])
  | finished hp => exact .finished hp

theorem elapse_rest (h : p.Rest cfg code) {t : Nat} (hle : p.now ≤ t)
    (ht : ∀ u, p.nextTime = some u → t ≤ u) :
    p.act cfg code (.elapse (t - p.now)) = { p with now := t } := by
  have hr : p.step? cfg code = none := h
  have hsum : p.now + (t - p.now) = t := by omega
  simp only [act, elapse, hr]
  cases hn : p.nextTime with
  | none => simp only [hsum]
  | some u => simp only [hsum, Nat.min_eq_left (ht u hn)]

theorem apply_error (code : SessionCode ω σ) (p : Pruner ω σ) (f : Failure) :
    p.apply code (.error f) = { p with phase := .waiting } := rfl

theorem apply_ok (code : SessionCode ω σ) (p : Pruner ω σ) (proxies : List ProxyStatus) :
    p.apply code (.ok proxies) = { p with
      table := (p.table.prune code (Table.aliveIds proxies)).2
      phase := if (p.table.prune code (Table.aliveIds proxies)).1.isSome then .waiting
        else .crashed } := by
  rcases hr : p.table.prune code (Table.aliveIds proxies) with ⟨_ | n, t⟩ <;>
    simp [apply, Table.reconcile, hr]

/-- An answer changes the table and ends the call. -/
theorem apply_fields (code : SessionCode ω σ) (p : Pruner ω σ)
    (report : Except Failure (List ProxyStatus)) :
    ∃ t ph, p.apply code report = { p with table := t, phase := ph } ∧
      (ph = .waiting ∨ ph = .crashed) := by
  cases report with
  | error f => exact ⟨_, _, apply_error code p f, .inl rfl⟩
  | ok proxies =>
    refine ⟨_, _, apply_ok code p proxies, ?_⟩
    split
    · exact .inl rfl
    · exact .inr rfl

/-! What a run shows -/

/-- The call that an action brings the answer to: when it was made, and what it was promised. -/
def answerBy (cfg : PrunerConfig) (code : SessionCode ω σ) (p : Pruner ω σ) :
    Action → Option (Nat × Promise)
  | .work =>
    match p.phase, p.step? cfg code with
    | .calling start promise, some _ => some (start, promise)
    | _, _ => none
  | _ => none

def promiseBy (cfg : PrunerConfig) (code : SessionCode ω σ) (p : Pruner ω σ) :
    Action → Option Promise
  | .work =>
    match (p.step? cfg code).map Pruner.phase with
    | some (.calling _ promise) => some promise
    | _ => none
  | _ => none

/-- What a piece of work comes to: the pruner after it, the call it has answered, and the promise to
the call it has made. -/
inductive Works (cfg : PrunerConfig) (code : SessionCode ω σ) (p : Pruner ω σ) : Prop where
  | rest : p.act cfg code .work = p → answerBy cfg code p .work = none →
      promiseBy cfg code p .work = none → Works cfg code p
  | stop : p.phase = .waiting → p.signalled = true →
      p.act cfg code .work = { p with phase := .stopped } →
      answerBy cfg code p .work = none → promiseBy cfg code p .work = none → Works cfg code p
  | call : p.phase = .waiting → p.due ≤ p.now → p.act cfg code .work = p.call cfg →
      answerBy cfg code p .work = none → promiseBy cfg code p .work = some p.directory →
      Works cfg code p
  | answer (start : Nat) (promise : Promise) (t : Nat) :
      p.phase = .calling start promise → answerTime start promise = some t → t ≤ p.now →
      p.act cfg code .work = p.apply code promise.report →
      answerBy cfg code p .work = some (start, promise) → promiseBy cfg code p .work = none →
      Works cfg code p

theorem works (cfg : PrunerConfig) (code : SessionCode ω σ) (p : Pruner ω σ) :
    Works cfg code p := by
  cases hq : p.step? cfg code with
  | none =>
    refine .rest ?_ ?_ ?_
    · simp [act, hq]
    · simp only [answerBy, hq]
      split
      · next h => cases h
      · rfl
    · simp [promiseBy, hq]
  | some q =>
    have he : p.act cfg code .work = q := by simp [act, hq]
    cases does_of_step hq with
    | stop hp hs => exact .stop hp hs he (by simp [answerBy, hp]) (by simp [promiseBy, hq])
    | call hp hd => exact .call hp hd he (by simp [answerBy, hp]) (by simp [promiseBy, hq, call])
    | answer start promise t hp ht hle =>
      refine .answer start promise t hp ht hle he (by simp [answerBy, hp, hq]) ?_
      obtain ⟨table, ph, ha, hph⟩ := apply_fields code p promise.report
      rw [ha] at hq
      rcases hph with rfl | rfl <;> simp [promiseBy, hq]

/-- Time goes on, and nothing that is known to come due is passed over. -/
theorem elapse_later (cfg : PrunerConfig) (code : SessionCode ω σ) (p : Pruner ω σ) (ms : Nat) :
    ∃ t, p.act cfg code (.elapse ms) = { p with now := t } ∧ p.now ≤ t ∧
      (t = p.now ∨ ∀ u, p.nextTime = some u → t ≤ u) := by
  simp only [act, elapse]
  cases hq : p.step? cfg code with
  | some q => exact ⟨p.now, rfl, le_rfl, .inl rfl⟩
  | none =>
    cases ht : p.nextTime with
    | none => exact ⟨p.now + ms, rfl, Nat.le_add_right _ _, .inr nofun⟩
    | some u =>
      have hlt := nextTime_of_resting (resting_of_rest hq) ht
      refine ⟨min (p.now + ms) u, rfl, by omega, .inr ?_⟩
      intro v hv
      cases hv
      exact Nat.min_le_right _ _

/-! Ticks -/

theorem nextTick_ge (interval due now : Nat) :
    due + interval ≤ nextTick interval due now := by
  unfold nextTick
  split
  · -- a late tick is made up for, and the ticks of whole intervals since then are skipped
    have hdiv := Nat.div_add_mod (now - due) interval
    have hpos : 0 ≤ interval * ((now - due) / interval) := Nat.zero_le _
    omega
  · exact le_rfl

theorem nextTick_late {interval due now : Nat} (hP : 0 < interval) (h : due + 5 < now) :
    now < nextTick interval due now := by
  have hmod := Nat.mod_lt (now - due) hP
  unfold nextTick
  rw [if_pos h]
  omega

theorem nextTick_soon {interval due now : Nat} (h : now ≤ due + 5) :
    nextTick interval due now = due + interval := by
  unfold nextTick
  rw [if_neg (by omega)]

/-! What is due at once is soon done -/

def ticks (due now : Nat) : Nat :=
  if now < due then 0 else if due + 5 < now then 1 else now - due + 1

theorem ticks_le (due now : Nat) : ticks due now ≤ 6 := by
  unfold ticks
  split_ifs <;> omega

theorem ticks_next {interval due now : Nat} (hP : 0 < interval) (h : due ≤ now) :
    ticks (nextTick interval due now) now < ticks due now := by
  by_cases hlate : due + 5 < now
  · have hlt := nextTick_late hP hlate
    simp only [ticks, if_pos hlt, if_neg (Nat.not_lt.mpr h), if_pos hlate]
    omega
  · rw [nextTick_soon (by omega)]
    unfold ticks
    split_ifs <;> omega

/-- How many steps the pruner takes at most before time must go on. -/
def toDo (p : Pruner ω σ) : Nat :=
  match p.phase with
  | .waiting => 2 * ticks p.due p.now + 1
  | .calling _ _ => 2 * ticks p.due p.now + 2
  | _ => 0

theorem toDo_le (p : Pruner ω σ) : p.toDo ≤ 14 := by
  have h := ticks_le p.due p.now
  unfold toDo
  split <;> omega

theorem toDo_step (hP : 0 < cfg.interval) (h : p.step? cfg code = some q) :
    q.toDo < p.toDo := by
  cases does_of_step h with
  | stop hp hs =>
    simp only [toDo, hp]
    omega
  | call hp hd =>
    have hlt := ticks_next hP hd
    simp only [toDo, call, hp]
    omega
  | answer start promise t hp _ _ =>
    obtain ⟨table, ph, he, hph⟩ := apply_fields code p promise.report
    rw [he]
    rcases hph with rfl | rfl
    · simp only [toDo, hp]
      omega
    · simp only [toDo, hp]
      omega

theorem steps_rest (hP : 0 < cfg.interval) {n : Nat} (hn : p.toDo ≤ n) :
    (p.steps cfg code n).Rest cfg code := by
  induction n generalizing p with
  | zero =>
    cases hq : p.step? cfg code with
    | none => exact hq
    | some q =>
      have hlt := toDo_step hP hq
      omega
  | succ n ih =>
    unfold steps
    cases hq : p.step? cfg code with
    | none => exact hq
    | some q =>
      have hlt := toDo_step hP hq
      apply ih
      omega

theorem settle_rest (hP : 0 < cfg.interval) (p : Pruner ω σ) :
    (p.settle cfg code).Rest cfg code :=
  steps_rest hP (toDo_le p)

theorem work_rest (h : p.Rest cfg code) (n : Nat) :
    p.run cfg code (List.replicate n .work) = p := by
  have hw : p.act cfg code .work = p := by
    have hr : p.step? cfg code = none := h
    simp only [act, hr, Option.getD_none]
  induction n with
  | zero => rfl
  | succ n ih =>
    have hrun : p.run cfg code (List.replicate (n + 1) .work) =
        (p.act cfg code .work).run cfg code (List.replicate n .work) := rfl
    rw [hrun, hw, ih]

theorem steps_run (n : Nat) (p : Pruner ω σ) :
    p.steps cfg code n = p.run cfg code (List.replicate n .work) := by
  induction n generalizing p with
  | zero => rfl
  | succ n ih =>
    unfold steps
    cases hq : p.step? cfg code with
    | none => exact (work_rest hq (n + 1)).symm
    | some q =>
      have hw : p.act cfg code .work = q := by simp only [act, hq, Option.getD_some]
      have hrun : p.run cfg code (List.replicate (n + 1) .work) =
          (p.act cfg code .work).run cfg code (List.replicate n .work) := rfl
      rw [hrun, hw]
      exact ih q

theorem now_step (h : p.step? cfg code = some q) : q.now = p.now := by
  cases does_of_step h with
  | stop _ _ => rfl
  | call _ _ => rfl
  | answer start promise t _ _ _ =>
    obtain ⟨table, ph, he, -⟩ := apply_fields code p promise.report
    rw [he]

theorem now_steps (n : Nat) (p : Pruner ω σ) : (p.steps cfg code n).now = p.now := by
  induction n generalizing p with
  | zero => rfl
  | succ n ih =>
    unfold steps
    cases hq : p.step? cfg code with
    | none => rfl
    | some q => exact (ih q).trans (now_step hq)

/-! Waiting and shutting down -/

/-- A pruner comes to rest at `t` without others having done anything. -/
def Passes (cfg : PrunerConfig) (code : SessionCode ω σ) (p q : Pruner ω σ) (t : Nat) : Prop :=
  q.Rest cfg code ∧ q.now = t ∧
    ∃ ys : List Action, (∀ y ∈ ys, y.own = true) ∧ q = p.run cfg code ys

theorem passes_later (h : p.Rest cfg code) {t : Nat} (hle : p.now ≤ t)
    (ht : ∀ u, p.nextTime = some u → t < u) : Passes cfg code p { p with now := t } t := by
  refine ⟨(resting_later (resting_of_rest h) ht).rest, rfl, [.elapse (t - p.now)], ?_, ?_⟩
  · intro y hy
    rw [List.mem_singleton.mp hy]
    rfl
  · exact (elapse_rest h hle fun u hu => Nat.le_of_lt (ht u hu)).symm

theorem passes_settle (hP : 0 < cfg.interval) (h : p.Rest cfg code) {t : Nat} (hle : p.now ≤ t)
    (ht : ∀ u, p.nextTime = some u → t ≤ u) :
    Passes cfg code p (settle cfg code { p with now := t }) t := by
  refine ⟨settle_rest hP _, now_steps 14 _, .elapse (t - p.now) :: List.replicate 14 .work, ?_, ?_⟩
  · intro y hy
    rcases List.mem_cons.mp hy with rfl | hy
    · rfl
    · rw [List.eq_of_mem_replicate hy]
      rfl
  · have hrun : p.run cfg code (.elapse (t - p.now) :: List.replicate 14 .work) =
        (p.act cfg code (.elapse (t - p.now))).run cfg code (List.replicate 14 .work) := rfl
    rw [hrun, elapse_rest h hle ht, settle, steps_run]

theorem passes_refl (h : p.Rest cfg code) : Passes cfg code p p p.now := by
  refine ⟨h, rfl, [], ?_, rfl⟩
  intro y hy
  cases hy

theorem Passes.trans {r : Pruner ω σ} {t u : Nat} (h : Passes cfg code p q t)
    (h' : Passes cfg code q r u) : Passes cfg code p r u := by
  obtain ⟨-, -, ys, hy, hq⟩ := h
  obtain ⟨hr, hu, zs, hz, hrz⟩ := h'
  refine ⟨hr, hu, ys ++ zs, ?_, ?_⟩
  · intro x hx
    rcases List.mem_append.mp hx with hx | hx
    · exact hy x hx
    · exact hz x hx
  · rw [run_append, ← hq, hrz]

/-- Time goes on to what comes due next, and it is done. -/
theorem passes_next (hP : 0 < cfg.interval) (h : p.Rest cfg code) {t : Nat}
    (ht : p.nextTime = some t) :
    Passes cfg code p (settle cfg code { p with now := max p.now t }) t := by
  have hlt : p.now < t := nextTime_of_resting (resting_of_rest h) ht
  have hmax : max p.now t = t := Nat.max_eq_right (Nat.le_of_lt hlt)
  rw [hmax]
  apply passes_settle hP h (Nat.le_of_lt hlt)
  intro u hu
  rw [ht] at hu
  exact (Option.some.inj hu).le

theorem passes_none (h : p.Rest cfg code) {target : Nat} (hle : p.now ≤ target)
    (ht : p.nextTime = none) : Passes cfg code p { p with now := target } target := by
  apply passes_later h hle
  intro u hu
  rw [ht] at hu
  cases hu

/-- At each of the times at which something comes due the clock has moved on, so the rounds last. -/
theorem advance_passes (hP : 0 < cfg.interval) (h : p.Rest cfg code) {target fuel : Nat}
    (hle : p.now ≤ target) (hf : target - p.now < fuel) :
    Passes cfg code p (advance cfg code target fuel p) target := by
  induction fuel generalizing p with
  | zero => omega
  | succ fuel ih =>
    unfold advance
    cases ht : p.nextTime with
    | none => exact passes_none h hle ht
    | some t =>
      have hlt : p.now < t := nextTime_of_resting (resting_of_rest h) ht
      simp only
      split
      · have hstep := passes_next hP h ht
        obtain ⟨hrest, hnow, -⟩ := id hstep
        exact hstep.trans (ih hrest (by omega) (by omega))
      · apply passes_later h hle
        intro u hu
        rw [ht] at hu
        cases hu
        omega

theorem wait_passes (hP : 0 < cfg.interval) (h : p.Rest cfg code) (ms : Nat) :
    Passes cfg code p (p.wait cfg code ms) (p.now + ms) :=
  advance_passes hP h (by omega) (by omega)

theorem awaitEnd_passes (hP : 0 < cfg.interval) (h : p.Rest cfg code) {deadline : Nat} (fuel : Nat)
    (hle : p.now ≤ deadline) :
    ∃ t ≤ deadline, Passes cfg code p (awaitEnd cfg code deadline fuel p).2 t := by
  induction fuel generalizing p with
  | zero => exact ⟨p.now, hle, passes_refl h⟩
  | succ fuel ih =>
    unfold awaitEnd
    split
    · exact ⟨p.now, hle, passes_refl h⟩
    · cases ht : p.nextTime with
      | none => exact ⟨deadline, le_rfl, passes_none h hle ht⟩
      | some t =>
        simp only
        split
        · have hstep := passes_next hP h ht
          obtain ⟨hrest, hnow, -⟩ := id hstep
          obtain ⟨u, hu, hpass⟩ := ih hrest (by omega)
          exact ⟨u, hu, hstep.trans hpass⟩
        · refine ⟨deadline, le_rfl, passes_settle hP h hle ?_⟩
          intro u hu
          rw [ht] at hu
          cases hu
          omega

/-- The signal is given, and then no one does anything until the wait is over. -/
theorem shutdown_passes (hP : 0 < cfg.interval) (p : Pruner ω σ) (timeout : Nat) :
    ∃ t ≤ p.now + timeout,
      Passes cfg code (p.act cfg code .signal) (p.shutdown cfg code timeout).2 t := by
  have hq : Passes cfg code (p.act cfg code .signal)
      ((p.act cfg code .signal).settle cfg code) p.now := by
    refine ⟨settle_rest hP _, now_steps 14 _, List.replicate 14 .work, ?_, steps_run 14 _⟩
    intro y hy
    rw [List.eq_of_mem_replicate hy]
    rfl
  obtain ⟨hrest, hnow, -⟩ := id hq
  unfold shutdown
  split
  · exact ⟨p.now, by omega, hq⟩
  · have hle : ((p.act cfg code .signal).settle cfg code).now ≤ p.now + timeout := by omega
    obtain ⟨t, ht, hpass⟩ := awaitEnd_passes hP hrest (timeout + 1) hle
    exact ⟨t, ht, hq.trans hpass⟩

end Intercept.Pruner
