import Intercept.Proofs.Channel.Steady

/-!
Delivery. What senders were told was accepted is what the loop has written and what still stands in
the queue, in that order, as long as everything can be written. The queue is empty whenever an
arrival is taken up, so no end of the loop leaves anything behind.
-/

namespace Intercept.Channel

variable {σ : Type} {caps : Capabilities} {c : Channel σ} (hook : Hook σ)

/-- What a step gets accepted, by what the senders are told: one send through the handle, or in a
hook's turn its sends and after them the channel's reply. -/
def acceptedBy (c : Channel σ) : Action → List Queued
  | .use via s => Script.acceptedOf [(s, (c.act hook (.use via s)).1)]
  | .tick =>
    match c.takes.bind Arrival.packet? with
    | some p =>
      Script.acceptedOf ((hook.decide c.hook p).sends c.handle) ++
        hook.reply c.handle.caps c.hook p
    | none => []
  | _ => []

def accepted : Channel σ → List Action → List Queued := gather hook (acceptedBy hook)

def frames (c : Channel σ) : List String := c.written.map (·.command.encode)

theorem reply_live (p : Packet) {a : List Queued} (hh : c.handle = .live caps false [] a) :
    Script.acceptedOf ((hook.decide c.hook p).sends c.handle) ++
      hook.reply c.handle.caps c.hook p = hook.queued caps c.hook p := by
  rw [hh, Script.sends_live_congr _ caps false [] a [] []]
  rfl

/-- A round writes from the front of the queue what it takes out of it. -/
theorem balance_tick {qs : List Queued} (hc : Steady caps c)
    (hb : c.written ++ c.handle.queue = qs) :
    (c.tick hook).written ++ (c.tick hook).handle.queue = qs ++ acceptedBy hook c .tick := by
  cases (round_tick hook hc).1 with
  | turn p a ht hh hd hq =>
    have hn : c.handle.queue = [] := by rw [hh, Handle.live_queue]
    rw [acceptedBy, ht]
    simp only
    rw [reply_live hook p hh, written_eq, hd, List.filterMap_append, queued_turn, ← written_eq, hq,
      List.append_nil, ← hb, hn, List.append_nil]
  | write ws ht hd hq =>
    rw [acceptedBy, ht]
    simp only
    rw [written_eq, hd, List.filterMap_append, queued_wrote, ← written_eq, List.append_assoc, ← hq,
      hb, List.append_nil]

theorem balance_act {qs : List Queued} (hc : Steady caps c)
    (hb : c.written ++ c.handle.queue = qs) (x : Action) :
    (c.act hook x).2.written ++ (c.act hook x).2.handle.queue = qs ++ acceptedBy hook c x := by
  cases x with
  | use via s =>
    rcases act_use hook hc.place via s with ⟨f, hf⟩ | ⟨q, a, -, hh, hq⟩
    · rw [acceptedBy, hf]
      simpa [Script.acceptedOf] using hb
    · rw [acceptedBy, hq, ← hb, hh, List.append_assoc]
      rfl
  | tick => exact balance_tick hook hc hb
  | _ => exact hb.trans (List.append_nil qs).symm

theorem balance_run (caps : Capabilities) (s : σ) {xs : List Action}
    (hw : ∀ text, Action.breakSink text ∉ xs) :
    ((opened caps s).run hook xs).written ++ ((opened caps s).run hook xs).handle.queue =
      accepted hook (opened caps s) xs := by
  refine run_induction hook (P := fun xs d => d.written ++ d.handle.queue =
    accepted hook (opened caps s) xs) rfl ?_ (steady_opened caps s) hw
  intro xs x hc hb
  rw [accepted, gather_snoc]
  exact balance_act hook hc hb x

/-- Nothing is accepted any more once the loop has a result. -/
theorem acceptedBy_over {r : Except Failure Unit} (hc : Place caps c) (ho : Over r c)
    (x : Action) : acceptedBy hook c x = [] := by
  cases x with
  | use via s =>
    rcases act_use hook hc via s with ⟨f, hf⟩ | ⟨q, a, hp, -, -⟩
    · rw [acceptedBy, hf]
      rfl
    · exact absurd hp (not_running_of_over ho)
  | tick =>
    rw [acceptedBy, takes_over ho]
    rfl
  | _ => rfl

theorem accepted_over {r : Except Failure Unit} (hc : Place caps c) (ho : Over r c)
    (ys : List Action) : accepted hook c ys = [] := by
  induction ys generalizing c with
  | nil => rfl
  | cons y ys ih =>
    rw [accepted, gather, acceptedBy_over hook hc ho y, List.nil_append]
    exact ih (place_act hook hc y) (over_act hook ho y).1

/-- While everything can be written, what was accepted is what was written and what is queued, in
the order of acceptance and each once. When the loop has its result, whichever it is, all of it was
written, and nothing is accepted or written later. A refused send changes nothing. -/
theorem written_eq_accepted (caps : Capabilities) (s : σ) (xs : List Action)
    (hw : ∀ text, Action.breakSink text ∉ xs) :
    let c := (opened caps s).run hook xs
    c.written ++ c.handle.queue = accepted hook (opened caps s) xs ∧
    (∀ r, c.phase = .closing r ∨ c.phase = .ended r →
      c.frames = (accepted hook (opened caps s) xs).map (·.command.encode) ∧
      ∀ ys, (c.run hook ys).frames = c.frames ∧ accepted hook c ys = []) ∧
    ∀ via s f, (c.act hook (.use via s)).1 = .error f → (c.act hook (.use via s)).2 = c := by
  intro c
  have hb := balance_run hook caps s hw
  have hc := steady_run hook (steady_opened caps s) hw
  refine ⟨hb, ?_, ?_⟩
  · intro r ho
    refine ⟨?_, fun ys => ⟨?_, accepted_over hook hc.place ho ys⟩⟩
    · rw [← hb, hc.rest (not_running_of_over ho), List.append_nil, frames]
    · rw [frames, written, (over_run hook ho ys).2]
      rfl
  · intro via s f hf
    rcases act_use hook hc.place via s with ⟨g, hg⟩ | ⟨q, a, -, -, hq⟩
    · rw [hg]
    · rw [hq] at hf
      cases hf

/-- A command that was accepted before the channel was closed goes out, the one after it was
refused. -/
theorem written_before_shutdown :
    let hook : Hook Unit := ⟨fun s _ => .done (some true, s)⟩
    let xs := [.use 0 (.filter 7 true), .close 1, .use 0 (.filter 8 true), .tick, .tick]
    (∀ text, Action.breakSink text ∉ xs) ∧
      ((opened { filter := true } ()).run hook xs).frames =
        [(Command.filter 7 true).encode] := by
  intro hook xs
  have hw : ∀ text, Action.breakSink text ∉ xs := by simp [xs]
  have h := written_eq_accepted hook { filter := true } () xs hw
  have ha : accepted hook (opened { filter := true } ()) xs = [⟨Command.filter 7 true, false⟩] :=
    rfl
  refine ⟨hw, ?_⟩
  rw [(h.2.1 (.ok ()) (.inr rfl)).1, ha]
  rfl

end Intercept.Channel
