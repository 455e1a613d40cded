import Intercept.Session.Table

/-!
A table of sessions as the hook of a channel. Packets that no session decides about get a fixed
verdict, and so do those of another kind of network if the hub is restricted to one.
-/

namespace Intercept

structure Hub where
  network : Option String := none
  fallback : Bool := false
deriving DecidableEq, Repr

namespace Hub

variable {ω σ : Type}

def routes (hub : Hub) (p : Packet) : Bool :=
  match hub.network with
  | some n => p.network == n
  | none => true

/-- The verdict, unless session code fell apart. -/
def decide (hub : Hub) (code : SessionCode ω σ) (t : Table ω σ) (p : Packet) :
    Script (Option Bool × Table ω σ) :=
  if hub.routes p then do
    let (verdict, t) ← t.dispatch code p
    return (verdict.map (·.getD hub.fallback), t)
  else .done (some hub.fallback, t)

def hook (hub : Hub) (code : SessionCode ω σ) : Hook (Table ω σ) where
  decide := hub.decide code

end Hub

end Intercept
