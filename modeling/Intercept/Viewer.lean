import Intercept.CommandLine
import Intercept.Interceptor
import Intercept.Log.Filter
import Intercept.Viewer.Overview
import Intercept.Viewer.Watch

/-!
A run of the viewer: it prints what the service says, opens a channel, and logs every packet until
the channel ends or someone stops it. What the service and the user do is given beforehand.
-/

namespace Intercept

/-- What brings a run to its end after all else has arrived. -/
inductive Ending where
  | arrival (a : Arrival)
  | signal (name : String)
deriving DecidableEq, Repr

structure Peer where
  keyInfo : Response
  status : Response
  proxies : Response
  handshake : Url → Handshake
  arrivals : List Arrival
  ending : Ending

/-- One that cannot be reached. -/
def Peer.absent (text : String) : Peer :=
  ⟨.broken text, .broken text, .broken text, fun _ => .refused text, [], .arrival .finished⟩

namespace Viewer

inductive Line where
  | printed (text : String)
  | logged (l : LogLine)
deriving DecidableEq, Repr

/-- What a run has asked for, shown and sent, and why it failed if it did. -/
structure Transcript where
  asked : List Url := []
  lines : List Line := []
  sent : List Command := []
  fault : Option String := none

namespace Transcript

/-- Goes on only if nothing has failed. -/
def andThen (t : Transcript) (more : Unit → Transcript) : Transcript :=
  match t.fault with
  | some _ => t
  | none =>
    let u := more ()
    ⟨t.asked ++ u.asked, t.lines ++ u.lines, t.sent ++ u.sent, u.fault⟩

def exitCode (t : Transcript) : Nat := if t.fault.isNone then 0 else 1

/-- What is written to standard error. -/
def complaint (t : Transcript) : String :=
  match t.fault with
  | some text => "Error: " ++ text
  | none => ""

/-- The lines that are shown under a filter. -/
def shown (filter : LogFilter) (target : String) (t : Transcript) : List String :=
  t.lines.filterMap fun
    | .printed text => some text
    | .logged l => if filter.shows target l.level then some l.text else none

end Transcript

/-- The variable of the environment with a filter of its own. -/
def filterVariable : String := "RUST_LOG"

def target : String := "ezproxy_view"

def defaultFilter (level : LogLevel) : LogFilter :=
  [⟨"ezproxy_client", some level⟩, ⟨target, some level⟩]

/-- A filter that is given goes first, if it can be read. -/
def filter (level : LogLevel) (given : Option String) : LogFilter :=
  (given.bind LogFilter.ofText?).getD (defaultFilter level)

/-- Packets that no session decides about pass. -/
def hub : Hub := { fallback := true }

def startLine (a : Arguments) : LogLine :=
  ⟨.info, "Starting EzProxy viewer",
    [("url", a.url), ("filter", toString a.filter), ("inject", toString a.inject),
      ("close", toString a.close), ("drop_every", toString a.dropEvery)]⟩

/-- What was answered, or a warning that it was not. -/
def linesOr {α : Type} (warning : String) (lines : α → List String) :
    Except Failure α → List Line
  | .ok x => (lines x).map .printed
  | .error f => [.logged ⟨.warn, warning, [("error", f.message)]⟩]

/-- What is asked and printed before the channel is opened. A key that is not known ends it; a key
may lack the right to ask for the rest. -/
def overview (client : ServiceClient) (peer : Peer) : Transcript :=
  match peer.keyInfo.interpret KeyInfo.record.ofTree with
  | .error f => { asked := [(client.keyInfo none).url], fault := some f.message }
  | .ok k =>
    { asked := [(client.keyInfo none).url, client.status.url, client.listProxies.url]
      lines := k.lines.map .printed ++
        linesOr "Spawner status unavailable" SpawnerStatus.lines
          (peer.status.interpret SpawnerStatus.record.ofTree) ++
        linesOr "Proxy list unavailable" ProxyStatus.listLines
          (peer.proxies.interpret Reply.proxies) }

abbrev Watches := Table (List LogLine) Watch

/-- Lets one thing arrive and waits until it has been handled. -/
def receive (hook : Hook Watches) (c : Channel Watches) (a : Arrival) : Channel Watches :=
  ((c.act hook (.arrive a)).2).settle hook

def finish (hook : Hook Watches) (c : Channel Watches) : Ending → Channel Watches
  | .arrival a => receive hook c a
  | .signal _ => ((c.act hook (.close 0)).2).settle hook

def signalLines (running : Bool) : Ending → List Line
  | .signal name =>
    if running then [.logged ⟨.info, s!"{name} received, shutting down...", []⟩] else []
  | .arrival _ => []

/-- The last line: how the channel ended. -/
def lastLine : Except Failure Unit → LogLine
  | .ok () => ⟨.info, "Viewer stopped", []⟩
  | .error f => ⟨.error, "Channel failed", [("error", f.message)]⟩

/-- Handles all that arrives, stops, and closes every session. -/
def watch (a : Arguments) (i : Interceptor (List LogLine) Watch) (o : Opening Watches)
    (peer : Peer) : Transcript :=
  let code := Watch.code a.dropEvery
  let hook := i.hub.hook code
  let c := peer.arrivals.foldl (receive hook) o.channel
  let signals := signalLines c.join.1.isNone peer.ending
  let c := finish hook c peer.ending
  let result := c.join.1.getD (.ok ())
  let before := c.hook.world
  let i := ((i.withTable c.hook).shutdown code (a.shutdownTimeout.nanos / 1000000)).2
  let after := i.table.world.drop before.length
  { asked := [o.uri]
    lines := before.map .logged ++ signals ++ after.map .logged ++ [.logged (lastLine result)]
    sent := c.written.map (·.command)
    fault := match result with
      | .ok () => none
      | .error f => some f.message }

/-- Opens the channel and watches it. The socket has been asked for even if it is refused. -/
def follow (a : Arguments) (caps : Capabilities) (peer : Peer)
    (i : Interceptor (List LogLine) Watch) : Transcript :=
  match i.openChannel caps peer.handshake with
  | .error f =>
    { asked := (socketUri i.config.base i.config.key caps).toOption.toList
      fault := some f.message }
  | .ok o => watch a i o peer

/-- A whole run. The pruner has no part in it, as no time goes by. -/
def run (a : Arguments) (peer : Peer) : Transcript :=
  match a.check, a.capabilities with
  | .error e, _ => { fault := some e.message }
  | _, .error e => { fault := some e.message }
  | .ok (), .ok caps =>
    let started : Transcript := { lines := [.logged (startLine a)] }
    started.andThen fun () =>
      match Interceptor.start a.config hub { world := [] } ⟨none, .ok []⟩ with
      | .error f => { fault := some f.message }
      | .ok i => (overview i.service peer).andThen fun () => follow a caps peer i

end Viewer

end Intercept
