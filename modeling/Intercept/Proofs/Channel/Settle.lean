import Intercept.Proofs.Channel.Run

/-!
Settling. Each round of a loop writes or reads something, or brings the loop closer to its end, and
so the rounds that a channel is given to settle leave it with nothing to do: it has ended, or it
waits for something to arrive.
-/

namespace Intercept.Channel

variable {σ : Type} {caps : Capabilities} {c : Channel σ} (hook : Hook σ)

/-- How many rounds there can still be something to do. -/
def work (c : Channel σ) : Nat :=
  match c.phase with
  | .running => if c.handle.cancelled then 2 else c.handle.queue.length + c.arrived.length + 3
  | .closing _ => 1
  | .ended _ => 0

inductive Idle (c : Channel σ) : Prop where
  | waiting : c.phase = .running → c.handle.cancelled = false → c.handle.queue = [] →
      c.arrived = [] → Idle c
  | ended (r : Except Failure Unit) : c.phase = .ended r → Idle c

theorem work_live {b : Bool} {q a : List Queued} {xs : List Arrival} (hp : c.phase = .running)
    (hh : c.handle = .live caps b q a) (ha : c.arrived = xs) :
    c.work = if b then 2 else q.length + xs.length + 3 := by
  simp only [work, hp, hh, ha, Handle.live_cancelled, Handle.live_queue]

theorem work_written {b : Bool} {q a : List Queued} {ds : List Deed} (hp : c.phase = .running) :
    work { c with handle := .live caps b q a, deeds := ds } =
      if b then 2 else q.length + c.arrived.length + 3 :=
  work_live (c := { c with handle := .live caps b q a, deeds := ds }) hp rfl rfl

theorem work_finish (r : Except Failure Unit) : (c.finish r).work = 1 := rfl

/-- A flush empties the queue, or the loop finishes. -/
theorem work_flush {b : Bool} {q a : List Queued} (hp : c.phase = .running)
    (hh : c.handle = .live caps b q a) : (orFinish c.flush).work ≤ c.arrived.length + 3 := by
  rcases Option.eq_none_or_eq_some c.sink with hs | ⟨text, hs⟩
  · rw [flush_open hs hh, orFinish, work_written hp, List.length_nil]
    split <;> omega
  · cases q with
    | nil =>
      rw [flush_nil (by rw [hh, Handle.live_queue]), orFinish, work_live hp hh rfl, List.length_nil]
      split <;> omega
    | cons x q =>
      rw [flush_broken hs hh, orFinish, work_finish]
      omega

theorem tick_progress (hc : Place caps c) :
    (Idle c ∧ c.tick hook = c) ∨ (c.tick hook).work < c.work := by
  cases hc with
  | stopping q a hp hh =>
    refine .inr ?_
    rw [tick_stopping hook hp hh, work_finish, work_live hp hh rfl, if_pos rfl]
    omega
  | writing x q a hp hh =>
    refine .inr ?_
    rw [tick_writing hook hp hh, work_live hp hh rfl, if_neg Bool.false_ne_true, List.length_cons]
    rcases Option.eq_none_or_eq_some c.sink with hs | ⟨text, hs⟩
    · rw [writeFirst_open hs hh, orFinish, work_written hp, if_neg Bool.false_ne_true]
      omega
    · rw [writeFirst_broken hs hh, orFinish, work_finish]
      omega
  | reading x rest a hp hh ha =>
    refine .inr ?_
    rw [work_live hp hh ha, if_neg Bool.false_ne_true, List.length_cons]
    cases hx : x.reading with
    | pass =>
      rw [tick_pass hook hp hh ha hx, work_live (c := { c with arrived := rest }) hp hh
        (rfl : rest = rest), if_neg Bool.false_ne_true]
      omega
    | halt r =>
      have hw : (c.tick hook).work = 1 := by rw [tick_halt hook hp hh ha hx]; rfl
      omega
    | packet p =>
      have hw := work_flush (c := turned hook caps p a { c with arrived := rest }) hp rfl
      rw [tick_packet hook hp hh ha hx]
      simp only [turned] at hw ⊢
      omega
  | waiting a hp hh ha =>
    have hi : Idle c :=
      .waiting hp (by rw [hh, Handle.live_cancelled]) (by rw [hh, Handle.live_queue]) ha
    exact .inl ⟨hi, tick_waiting hook hp hh ha⟩
  | closing r q a hp hh =>
    refine .inr ?_
    rw [tick_closing hook hp hh, work, work, hp]
    exact Nat.zero_lt_one
  | ended r a hp hh => exact .inl ⟨.ended r hp, tick_ended hook hp⟩

def rounds (n : Nat) (c : Channel σ) : Channel σ := c.run hook (List.replicate n .tick)

theorem rounds_succ (n : Nat) (c : Channel σ) :
    rounds hook (n + 1) c = rounds hook n (c.tick hook) := rfl

theorem rounds_idle (hc : c.tick hook = c) (n : Nat) : rounds hook n c = c := by
  induction n with
  | zero => rfl
  | succ n ih => rw [rounds_succ, hc, ih]

theorem idle_rounds (hc : Place caps c) {n : Nat} (hn : c.work ≤ n) :
    Idle (rounds hook n c) ∧ (rounds hook n c).tick hook = rounds hook n c := by
  induction n generalizing c with
  | zero =>
    rcases tick_progress hook hc with hi | hlt
    · exact hi
    · omega
  | succ n ih =>
    rcases tick_progress hook hc with ⟨hi, ht⟩ | hlt
    · rw [rounds_idle hook ht]
      exact ⟨hi, ht⟩
    · have hle : (c.tick hook).work ≤ n := by omega
      exact ih (place_tick hook hc) hle

theorem repeat_eq (n : Nat) (c : Channel σ) : Nat.repeat (tick hook) n c = rounds hook n c := by
  induction n with
  | zero => rfl
  | succ n ih =>
    rw [Nat.repeat, ih, rounds, rounds, List.replicate_succ', run_snoc]
    rfl

theorem settle_eq (c : Channel σ) :
    c.settle hook = rounds hook (c.handle.queue.length + c.arrived.length + 3) c :=
  repeat_eq hook _ c

theorem settle_idle (hc : Place caps c) :
    Idle (c.settle hook) ∧ (c.settle hook).tick hook = c.settle hook := by
  rw [settle_eq]
  refine idle_rounds hook hc ?_
  simp only [work]
  split
  · split <;> omega
  · omega
  · omega

end Intercept.Channel
