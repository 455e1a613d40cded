import Intercept.Channel.Script

/-!
Code of an application that keeps a session for each proxy. Each of its four parts may come to its
result or fall apart, and making a session and handling a packet may also fail; whatever happens,
the state is left in some way. `ω` is what all sessions share, `σ` one session.
-/

namespace Intercept

inductive Outcome (α : Type) where
  | ok (a : α)
  | failed
  | collapsed

structure SessionCode (ω σ : Type) where
  create : ω → Packet → Script (Outcome σ × ω)
  /-- None if the question fell apart. -/
  isAlive : ω → σ → Option Bool × σ × ω
  handle : ω → σ → Packet → Script (Outcome Bool × σ × ω)
  /-- False if closing fell apart. -/
  close : ω → σ → Bool × ω

end Intercept
