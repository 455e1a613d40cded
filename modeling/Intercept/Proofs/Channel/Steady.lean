import Intercept.Proofs.Channel.Run

/-!
Runs in which everything can be written. A round is the turn of a hook, with all that comes of it,
or writes what was queued, and a loop that has its result has left nothing in the queue.
-/

namespace Intercept.Channel

variable {σ : Type} {caps : Capabilities} {c : Channel σ} (hook : Hook σ)

structure Steady (caps : Capabilities) (c : Channel σ) : Prop where
  place : Place caps c
  sink : c.sink = none
  rest : c.phase ≠ .running → c.handle.queue = []

/-- What a round comes to while everything can be written. -/
inductive Round (caps : Capabilities) (c d : Channel σ) : Prop where
  | turn (p : Packet) (a : List Queued) :
      c.takes.bind Arrival.packet? = some p → c.handle = .live caps false [] a →
      d.deeds = c.deeds ++ .asked p :: (hook.queued caps c.hook p).map .wrote →
      d.handle.queue = [] → Round caps c d
  | write (qs : List Queued) :
      c.takes.bind Arrival.packet? = none → d.deeds = c.deeds ++ qs.map .wrote →
      c.handle.queue = qs ++ d.handle.queue → Round caps c d

theorem round_tick (hc : Steady caps c) :
    Round hook caps c (c.tick hook) ∧
      ((c.tick hook).phase ≠ .running → (c.tick hook).handle.queue = []) := by
  obtain ⟨hplace, hs, hr⟩ := hc
  cases hplace with
  | stopping q a hp hh =>
    rw [tick_stopping hook hp hh, flush_open hs hh]
    refine ⟨.write q (by rw [takes_live hp hh]; rfl) rfl ?_, fun _ => rfl⟩
    rw [hh, Handle.live_queue]
    exact (List.append_nil q).symm
  | writing x q a hp hh =>
    rw [tick_writing hook hp hh, writeFirst_open hs hh]
    refine ⟨.write [x] (by rw [takes_live hp hh]; rfl) rfl ?_, fun h => absurd hp h⟩
    rw [hh]
    rfl
  | reading x rest a hp hh ha =>
    have ht := takes_reading hp hh ha
    cases hx : x.reading with
    | pass =>
      rw [tick_pass hook hp hh ha hx]
      exact ⟨.write [] (by rw [ht]; exact Arrival.packet?_pass hx) (List.append_nil _).symm rfl,
        fun h => absurd hp h⟩
    | halt r =>
      rw [tick_halt hook hp hh ha hx]
      refine ⟨.write [] (by rw [ht]; exact Arrival.packet?_halt hx) (List.append_nil _).symm ?_,
        fun _ => rfl⟩
      rw [hh]
      rfl
    | packet p =>
      have hf := flush_open (c := turned hook caps p a { c with arrived := rest }) hs
        (turned_handle hook caps p a _)
      rw [tick_packet hook hp hh ha hx, hf]
      have htakes : c.takes.bind Arrival.packet? = some p := by
        rw [ht]
        exact Arrival.packet?_packet hx
      exact ⟨.turn p a htakes hh (List.append_assoc _ _ _) rfl, fun h => absurd hp h⟩
  | waiting a hp hh ha =>
    rw [tick_waiting hook hp hh ha]
    exact ⟨.write [] (by rw [takes_live hp hh, ha]; rfl) (List.append_nil _).symm rfl, hr⟩
  | closing r q a hp hh =>
    have hq : q = [] := by
      have h := hr (by rw [hp]; exact nofun)
      rwa [hh, Handle.live_queue] at h
    rw [tick_closing hook hp hh]
    refine ⟨.write [] (by rw [takes, hp]; rfl) (List.append_nil _).symm ?_, fun _ => rfl⟩
    rw [hh, hq]
    rfl
  | ended r a hp hh =>
    rw [tick_ended hook hp]
    exact ⟨.write [] (by rw [takes, hp]; rfl) (List.append_nil _).symm rfl, hr⟩

theorem steady_act (hc : Steady caps c) {x : Action} (hx : ∀ text, x ≠ .breakSink text) :
    Steady caps (c.act hook x).2 := by
  have hplace := place_act hook hc.place x
  cases x with
  | use via s =>
    rcases act_use hook hc.place via s with ⟨f, hf⟩ | ⟨q, a, hp, -, hq⟩
    · rw [hf]
      exact hc
    · rw [hq] at hplace ⊢
      exact ⟨hplace, hc.sink, fun h => absurd hp h⟩
  | close via => exact ⟨hplace, hc.sink, hc.rest⟩
  | arrive x => exact ⟨hplace, hc.sink, hc.rest⟩
  | breakSink text => exact absurd rfl (hx text)
  | tick => exact ⟨hplace, (reads_tick hook hc.place).sink.trans hc.sink, (round_tick hook hc).2⟩

theorem steady_opened (caps : Capabilities) (s : σ) : Steady caps (opened caps s) :=
  ⟨place_opened caps s, rfl, fun h => absurd rfl h⟩

theorem steady_run {xs : List Action} (hc : Steady caps c)
    (hw : ∀ text, Action.breakSink text ∉ xs) : Steady caps (c.run hook xs) := by
  induction xs using List.reverseRecOn with
  | nil => exact hc
  | append_singleton xs x ih =>
    rw [run_snoc]
    refine steady_act hook (ih fun text h => hw text (List.mem_append_left [x] h)) ?_
    intro text hx
    exact hw text (List.mem_append_right xs (List.mem_singleton.mpr hx.symm))

/-- What a steady channel has at the start and keeps with each step, it has at the end. -/
theorem run_induction {P : List Action → Channel σ → Prop} (h₀ : P [] c)
    (step : ∀ {xs x}, Steady caps (c.run hook xs) → P xs (c.run hook xs) →
      P (xs ++ [x]) ((c.run hook xs).act hook x).2)
    (hc : Steady caps c) {xs : List Action} (hw : ∀ text, Action.breakSink text ∉ xs) :
    P xs (c.run hook xs) := by
  induction xs using List.reverseRecOn with
  | nil => exact h₀
  | append_singleton xs x ih =>
    have hx : ∀ text, Action.breakSink text ∉ xs :=
      fun text h => hw text (List.mem_append_left [x] h)
    rw [run_snoc]
    exact step (steady_run hook hc hx) (ih hx)

end Intercept.Channel
