import Intercept.Channel.Script

/-!
What code leaves behind that runs with a handle. Commands that were queued before stay in front and
change nothing for it; what it has sent stands behind them in the order in which it was accepted.
So the turn of a hook, from the question to its verdict, can be told from the capabilities, the
state of the hook and the packet alone.
-/

namespace Intercept

namespace Handle

def live (caps : Capabilities) (cancelled : Bool) (queue accepted : List Queued) : Handle where
  caps := caps
  state := if cancelled then .closing else .opened
  cancelled := cancelled
  queue := queue
  accepted := accepted

@[simp] theorem live_caps (caps : Capabilities) (b : Bool) (q a : List Queued) :
    (live caps b q a).caps = caps := rfl

@[simp] theorem live_cancelled (caps : Capabilities) (b : Bool) (q a : List Queued) :
    (live caps b q a).cancelled = b := rfl

@[simp] theorem live_queue (caps : Capabilities) (b : Bool) (q a : List Queued) :
    (live caps b q a).queue = q := rfl

theorem isAlive_live (caps : Capabilities) (b : Bool) (q a : List Queued) :
    (live caps b q a).isAlive = !b := by
  cases b <;> rfl

theorem close_live (caps : Capabilities) (b : Bool) (q a : List Queued) :
    (live caps b q a).close = live caps true q a := by
  cases b <;> rfl

theorem put_live (caps : Capabilities) (b : Bool) (q a : List Queued) (x : Queued) :
    (live caps b q a).put x = .ok (live caps b (q ++ [x]) (a ++ [x])) := rfl

/-- What is lacking is told before what is closed. -/
theorem send_live (caps : Capabilities) (b : Bool) (q a : List Queued) (s : Sending) :
    (live caps b q a).send s =
      if caps.has s.capability = false then .error (.missingCapability s.capability)
      else if b then .error .channelClosed
      else .ok (live caps b (q ++ [⟨s.command, false⟩]) (a ++ [⟨s.command, false⟩])) := by
  unfold send
  rw [isAlive_live, live_caps, put_live]
  cases caps.has s.capability <;> cases b <;> rfl

/-- Whether a send is accepted does not depend on what was queued before. -/
theorem send_live_or (caps : Capabilities) (b : Bool) (s : Sending) :
    (∃ f, ∀ q a, (live caps b q a).send s = .error f) ∨
    ∀ q a, (live caps b q a).send s =
      .ok (live caps b (q ++ [⟨s.command, false⟩]) (a ++ [⟨s.command, false⟩])) := by
  by_cases hc : caps.has s.capability = false
  · exact .inl ⟨_, fun q a => by rw [send_live, if_pos hc]⟩
  · cases b with
    | true => exact .inl ⟨_, fun q a => by rw [send_live, if_neg hc, if_pos rfl]⟩
    | false => exact .inr fun q a => by rw [send_live, if_neg hc, if_neg Bool.false_ne_true]

end Handle

namespace Script

variable {α : Type}

/-- The sends of some code, each with what it learns from it. -/
def sends : Script α → Handle → List (Sending × Except Failure Unit)
  | .done _, _ => []
  | .send s next, h =>
    match h.send s with
    | .ok h => (s, .ok ()) :: (next (.ok ())).sends h
    | .error f => (s, .error f) :: (next (.error f)).sends h
  | .close next, h => next.sends h.close
  | .look next, h => (next h.view).sends h

def acceptedOf (sends : List (Sending × Except Failure Unit)) : List Queued :=
  sends.filterMap fun
    | (s, .ok _) => some ⟨s.command, false⟩
    | (_, .error _) => none

def sent (x : Script α) (h : Handle) : List Queued := acceptedOf (x.sends h)

theorem not_own {x : Script α} {h : Handle} {q : Queued} (hq : q ∈ x.sent h) : q.own = false := by
  obtain ⟨⟨s, r⟩, -, hr⟩ := List.mem_filterMap.mp hq
  cases r with
  | ok u => cases hr; rfl
  | error f => cases hr

/-- Older commands make no difference to what code comes to, nor to whether it closes. -/
theorem run_live_congr (x : Script α) (caps : Capabilities) (b : Bool)
    (q a q' a' : List Queued) :
    (x.run (.live caps b q a)).1 = (x.run (.live caps b q' a')).1 ∧
    (x.run (.live caps b q a)).2.cancelled = (x.run (.live caps b q' a')).2.cancelled := by
  induction x generalizing b q a q' a' with
  | done r => exact ⟨rfl, rfl⟩
  | send s next ih =>
    rcases Handle.send_live_or caps b s with ⟨f, hf⟩ | hs
    · simp only [run, hf]
      exact ih _ b q a q' a'
    · simp only [run, hs]
      exact ih _ _ _ _ _ _
  | close next ih =>
    simp only [run, Handle.close_live]
    exact ih true q a q' a'
  | look next ih => exact ih _ b q a q' a'

theorem sends_live_congr (x : Script α) (caps : Capabilities) (b : Bool)
    (q a q' a' : List Queued) :
    x.sends (.live caps b q a) = x.sends (.live caps b q' a') := by
  induction x generalizing b q a q' a' with
  | done r => rfl
  | send s next ih =>
    rcases Handle.send_live_or caps b s with ⟨f, hf⟩ | hs
    · simp only [sends, hf]
      rw [ih _ b q a q' a']
    · simp only [sends, hs]
      rw [ih]
  | close next ih =>
    simp only [sends, Handle.close_live]
    exact ih true q a q' a'
  | look next ih => exact ih _ b q a q' a'

theorem run_live (x : Script α) (caps : Capabilities) (b : Bool) (q a : List Queued) :
    (x.run (.live caps b q a)).2 =
      .live caps (x.run (.live caps b q a)).2.cancelled
        (q ++ x.sent (.live caps b q a)) (a ++ x.sent (.live caps b q a)) := by
  induction x generalizing b q a with
  | done r => simp [run, sent, sends, acceptedOf]
  | send s next ih =>
    rcases Handle.send_live_or caps b s with ⟨f, hf⟩ | hs
    · simp only [run, sent, sends, hf]
      exact ih _ b q a
    · simp only [run, sent, sends, hs]
      have h := ih (.ok ()) b (q ++ [⟨s.command, false⟩]) (a ++ [⟨s.command, false⟩])
      rw [List.append_assoc, List.append_assoc] at h
      exact h
  | close next ih =>
    simp only [run, sent, sends, Handle.close_live]
    exact ih true q a
  | look next ih => exact ih _ b q a

end Script

namespace Hook

variable {σ : Type} (hook : Hook σ) (caps : Capabilities) (s : σ) (p : Packet)

def turn : (Option Bool × σ) × Handle := (hook.decide s p).run (.live caps false [] [])

/-- No verdict means no. -/
def verdict : Bool := (hook.turn caps s p).1.1.getD false

def next : σ := (hook.turn caps s p).1.2

def after (s : σ) (ps : List Packet) : σ := ps.foldl (hook.next caps) s

theorem after_append (s : σ) (ps qs : List Packet) :
    hook.after caps s (ps ++ qs) = hook.after caps (hook.after caps s ps) qs := List.foldl_append

def sent : List Queued := (hook.decide s p).sent (.live caps false [] [])

def closes : Bool := (hook.turn caps s p).2.cancelled

/-- What the channel itself says to a packet: the verdict, if the service waits for one. -/
def reply : List Queued :=
  if caps.filter && !p.isInjected then [⟨Command.filter p.number (hook.verdict caps s p), true⟩]
  else []

def queued : List Queued := hook.sent caps s p ++ hook.reply caps s p

theorem run_decide (q a : List Queued) :
    (hook.decide s p).run (.live caps false q a) =
      (((hook.turn caps s p).1.1, hook.next caps s p),
        .live caps (hook.closes caps s p) (q ++ hook.sent caps s p) (a ++ hook.sent caps s p)) := by
  obtain ⟨hr, hc⟩ := Script.run_live_congr (hook.decide s p) caps false q a [] []
  have hs := Script.sends_live_congr (hook.decide s p) caps false q a [] []
  refine Prod.ext hr ?_
  rw [Script.run_live, hc, Script.sent, hs]
  rfl

end Hook

end Intercept
