import Intercept.Capabilities
import Intercept.Command
import Intercept.Packet

/-!
The sending half of a channel. All clones of a handle share one record, so it makes no difference
which of them is used. A command that is accepted goes to the end of the queue and stays there
until the channel writes it.
-/

namespace Intercept

inductive ChannelState where
  | connecting
  | opened
  | closing
  | closed
deriving DecidableEq, Repr

def ChannelState.name : ChannelState → String
  | .connecting => "Connecting"
  | .opened => "Open"
  | .closing => "Closing"
  | .closed => "Closed"

/-- The place of a state in the life of a channel. -/
def ChannelState.rank : ChannelState → Nat
  | .connecting => 0
  | .opened => 1
  | .closing => 2
  | .closed => 3

/-- What a holder of a handle may send. -/
inductive Sending where
  | filter (packet : Int64) (allow : Bool)
  | inject (target : ProxyId) (data : List UInt8) (direction : Direction)
  | closeProxy (target : ProxyId)
deriving DecidableEq, Repr

namespace Sending

def toServer (target : ProxyId) (data : List UInt8) : Sending := .inject target data .toServer
def toClient (target : ProxyId) (data : List UInt8) : Sending := .inject target data .toClient

def capability : Sending → Capability
  | .filter .. => .filter
  | .inject .. => .inject
  | .closeProxy _ => .close

def command : Sending → Command
  | .filter packet allow => Command.filter packet allow
  | .inject target data direction => Command.inject target data direction
  | .closeProxy target => Command.close target

end Sending

/-- A command in the queue; `own` marks a verdict that the channel itself put there. -/
structure Queued where
  command : Command
  own : Bool
deriving DecidableEq, Repr

/-- `received` says whether there is still someone who takes commands out of the queue; `accepted`
holds all that were ever put into it, in order. -/
structure Handle where
  caps : Capabilities
  state : ChannelState
  cancelled : Bool := false
  received : Bool := true
  queue : List Queued := []
  accepted : List Queued := []
deriving DecidableEq, Repr

namespace Handle

/-- The handle of a channel that is being opened. -/
def fresh (caps : Capabilities) : Handle := { caps := caps, state := .connecting }

/-- An open handle without a channel behind it. -/
def detached (caps : Capabilities) : Handle := { fresh caps with state := .opened }

def isAlive (h : Handle) : Bool :=
  (h.state == .connecting || h.state == .opened) && !h.cancelled

def put (h : Handle) (q : Queued) : Except Failure Handle :=
  if h.received then .ok { h with queue := h.queue ++ [q], accepted := h.accepted ++ [q] }
  else .error .channelClosed

def send (h : Handle) (s : Sending) : Except Failure Handle :=
  if ¬ h.caps.has s.capability then .error (.missingCapability s.capability)
  else if ¬ h.isAlive then .error .channelClosed
  else h.put ⟨s.command, false⟩

def close (h : Handle) : Handle :=
  { h with
    cancelled := true
    state := if h.state = .opened then .closing else h.state }

/-- Takes everything out of the queue. -/
def drain (h : Handle) : List Queued × Handle := (h.queue, { h with queue := [] })

def dropReceiver (h : Handle) : Handle := { h with received := false, queue := [] }

@[simp] theorem isAlive_close (h : Handle) : h.close.isAlive = false := by
  simp [close, isAlive]

@[simp] theorem close_close (h : Handle) : h.close.close = h.close := by
  cases hs : h.state <;> simp [close, hs]

/-- An accepted command stands behind all others, and nothing else has changed. -/
theorem send_eq_ok {h g : Handle} {s : Sending} (e : h.send s = .ok g) :
    g = { h with
      queue := h.queue ++ [⟨s.command, false⟩]
      accepted := h.accepted ++ [⟨s.command, false⟩] } := by
  unfold send put at e
  split at e
  · cases e
  · split at e
    · cases e
    · split at e
      · exact (Except.ok.inj e).symm
      · cases e

end Handle

/-- One use of a handle. -/
inductive Use where
  | send (s : Sending)
  | close
  | dropReceiver
deriving DecidableEq, Repr

/-- Does what is asked for; a refused command changes nothing. All clones share one record, so it
does not matter through which of them it is asked. -/
def Handle.use (h : Handle) (_via : Nat) (u : Use) : Except Failure Unit × Handle :=
  match u with
  | .send s =>
    match h.send s with
    | .ok h => (.ok (), h)
    | .error f => (.error f, h)
  | .close => (.ok (), h.close)
  | .dropReceiver => (.ok (), h.dropReceiver)

end Intercept
