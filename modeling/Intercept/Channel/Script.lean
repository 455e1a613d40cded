import Intercept.Channel.Handle

/-!
Code that runs with a handle: it sends, closes and looks, may act on what it learns, and comes to
a result. What such code can do to a handle is exactly what `run` does here.
-/

namespace Intercept

/-- What can be seen of a channel through a handle. -/
structure View where
  caps : Capabilities
  state : ChannelState
  alive : Bool

def Handle.view (h : Handle) : View := ⟨h.caps, h.state, h.isAlive⟩

inductive Script (α : Type) where
  | done (a : α)
  | send (s : Sending) (next : Except Failure Unit → Script α)
  | close (next : Script α)
  | look (next : View → Script α)

namespace Script

variable {α β : Type}

def bind : Script α → (α → Script β) → Script β
  | .done a, f => f a
  | .send s next, f => .send s fun r => (next r).bind f
  | .close next, f => .close (next.bind f)
  | .look next, f => .look fun v => (next v).bind f

instance : Monad Script where
  pure := .done
  bind := bind

def run : Script α → Handle → α × Handle
  | .done a, h => (a, h)
  | .send s next, h =>
    match h.send s with
    | .ok h => (next (.ok ())).run h
    | .error f => (next (.error f)).run h
  | .close next, h => next.run h.close
  | .look next, h => (next h.view).run h

@[simp] theorem run_bind (x : Script α) (f : α → Script β) (h : Handle) :
    (x >>= f).run h = (f (x.run h).1).run (x.run h).2 := by
  change (x.bind f).run h = _
  induction x generalizing h with
  | done a => rfl
  | send s next ih =>
    simp only [bind, run]
    cases h.send s with
    | ok g => exact ih _ g
    | error e => exact ih _ h
  | close next ih => exact ih h.close
  | look next ih => exact ih h.view h

/-- Sends, and returns whether it was accepted. -/
def attempt (s : Sending) : Script (Except Failure Unit) := .send s .done

def view : Script View := .look .done

def shut : Script Unit := .close (.done ())

end Script

/-- Decides about packets. It may fall apart while deciding, and then gives no verdict. -/
structure Hook (σ : Type) where
  decide : σ → Packet → Script (Option Bool × σ)

end Intercept
