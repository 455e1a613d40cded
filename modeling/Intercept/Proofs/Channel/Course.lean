import Intercept.Proofs.Channel.Reading
import Intercept.Proofs.Channel.Turn
import Mathlib.Data.List.Induction

/-!
The course of a loop, told from what it meets on its way and in the order in which it meets it. The
first thing that ends a channel gives the result, and nothing counts after that. No verdict and no
failure of a hook is such an end.
-/

namespace Intercept

namespace Script

variable {α β : Type}

end Script

namespace Hook

variable {σ : Type} (hook : Hook σ) (caps : Capabilities)

end Hook

namespace Channel

variable {σ : Type} {caps : Capabilities} (hook : Hook σ)

structure Course (σ : Type) where
  hook : σ
  sink : Option String := none
  handled : List Arrival := []
  result : Option (Except Failure Unit) := none

end Channel

end Intercept
