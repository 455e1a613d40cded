import Intercept.Failure
import Intercept.Span

/-!
Settings of a client.
-/

namespace Intercept

structure Config where
  base : String
  key : String
  requestTimeout : Span := Span.ofSeconds 15
  pruneInterval : Span := Span.ofSeconds 30
  shutdownTimeout : Span := Span.ofSeconds 5
deriving DecidableEq, Repr

def Config.check (c : Config) : Except Failure Unit :=
  if c.base.isEmpty then .error (.argument .noBase)
  else if c.requestTimeout.isZero then .error (.argument .requestTimeout)
  else if c.pruneInterval.isZero then .error (.argument .pruneInterval)
  else .ok ()

end Intercept
