import Intercept.Proofs.Channel.Course
import Intercept.Proofs.Channel.Settle

/-!
How a channel ends. What a loop meets on its way, in the order in which it meets it, is enough to
tell what it handles and what it comes to: the first thing that ends a channel gives the result,
and nothing counts after that.
-/

namespace Intercept.Channel

variable {σ : Type} {caps : Capabilities} {c : Channel σ} (hook : Hook σ)

/-- A loop that has come as far as its course says. -/
inductive Follows (caps : Capabilities) (k : Course σ) (c : Channel σ) : Prop where
  | going (q a : List Queued) :
      k.result = none → c.phase = .running → c.handle = .live caps false q a →
      c.sink = k.sink → c.hook = k.hook → Follows caps k c
  | closed (q a : List Queued) :
      k.result = some (.ok ()) → c.phase = .running → c.handle = .live caps true q a →
      Follows caps k c
  | done (r : Except Failure Unit) : k.result = some r → Over r c → Follows caps k c

end Intercept.Channel
