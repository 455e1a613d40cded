import Intercept.Channel.Open
import Intercept.Service.Client
import Intercept.Session.Hub
import Intercept.Session.Pruner

/-!
A client as a whole: requests to the control plane, sessions behind a hub, and the pruner that
evicts them in the background.
-/

namespace Intercept

structure Interceptor (ω σ : Type) where
  config : Config
  service : ServiceClient
  hub : Hub
  pruner : Pruner ω σ
  /-- Whether the pruner was not yet told to stop. -/
  pruning : Bool := true

namespace Interceptor

variable {ω σ : Type}

/-- The pruner counts whole milliseconds, and its intervals are meant to be of whole milliseconds
too: part of one is counted as a whole one in the interval itself, not at each of its ticks. -/
def prunerConfig (c : Config) : PrunerConfig :=
  { interval := (c.pruneInterval.nanos + 999999) / 1000000 }

def start (config : Config) (hub : Hub) (table : Table ω σ) (directory : Promise) :
    Except Failure (Interceptor ω σ) := do
  config.check
  let service ← ServiceClient.ofConfig config
  .ok ⟨config, service, hub, Pruner.start (prunerConfig config) table directory, true⟩

def table (i : Interceptor ω σ) : Table ω σ := i.pruner.table

def withTable (i : Interceptor ω σ) (t : Table ω σ) : Interceptor ω σ :=
  { i with pruner := i.pruner.withTable t }

/-- Opens a channel whose packets go through the hub. -/
def openChannel (i : Interceptor ω σ) (caps : Capabilities) (shake : Url → Handshake) :
    Except Failure (Opening (Table ω σ)) :=
  Channel.connect i.config.base i.config.key caps i.table shake

/-- Stops the pruner and closes every session. Says whether the pruner stopped within the time,
unless closing a session fell apart. The clock stands inside of a millisecond, and the wait goes on
to the end of the one that it ends in. -/
def shutdown (code : SessionCode ω σ) (timeout : Nat) (i : Interceptor ω σ) :
    Option Bool × Interceptor ω σ :=
  let (stopped, pruner) :=
    if i.pruning then i.pruner.shutdown (prunerConfig i.config) code (timeout + 1)
    else (true, i.pruner)
  let (closed, t) := pruner.table.closeAll code
  (closed.map fun _ => stopped, { i with pruner := pruner.withTable t, pruning := false })

end Interceptor

end Intercept
