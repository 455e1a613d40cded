import Intercept.Log
import Intercept.Session.Code

/-!
What the viewer keeps of a proxy: how many packets there were, and how many of them it could have
dropped. Of the latter it drops every n-th. The counts are words of 64 bits, and behind the last one
they begin again at zero, as they do where overflow is not checked. What the viewer writes to the
log is shared by all proxies.
-/

namespace Intercept

structure Watch where
  proxy : ProxyId
  seen : UInt64 := 0
  filterable : UInt64 := 0
deriving DecidableEq, Repr

namespace Watch

/-- Whether a packet can be dropped at all. -/
def canDrop (caps : Capabilities) (p : Packet) : Bool := caps.filter && !p.isInjected

/-- The verdict on the k-th packet that can be dropped; zero drops none. -/
def allows (every k : UInt64) : Bool := every == 0 || k % every != 0

/-- Counts a packet and gives the verdict. -/
def next (every : UInt64) (caps : Capabilities) (w : Watch) (p : Packet) : Bool × Watch :=
  if canDrop caps p then
    (allows every (w.filterable + 1),
      { w with seen := w.seen + 1, filterable := w.filterable + 1 })
  else (true, { w with seen := w.seen + 1 })

def newLine (p : Packet) : LogLine :=
  ⟨.info, "New proxy seen", [("proxy_id", toString p.proxy), ("network", p.network)]⟩

def packetLine (p : Packet) : LogLine :=
  let mark := if p.isInjected then " (Injected)" else ""
  ⟨.info, s!"[{p.source} => {p.dest}{mark}] \x7b{p.number}\x7d {p.data.length} bytes", []⟩

def dropLine (p : Packet) : LogLine :=
  ⟨.debug, "Dropping packet",
    [("proxy_id", toString p.proxy), ("pkt_num", toString p.number)]⟩

def closeLine (w : Watch) : LogLine :=
  ⟨.info, "Proxy session closed",
    [("proxy_id", toString w.proxy), ("packets", toString w.seen)]⟩

/-- The viewer's sessions; what they share is the log. -/
def code (every : UInt64) : SessionCode (List LogLine) Watch where
  create log p := .done (.ok { proxy := p.proxy }, log ++ [newLine p])
  isAlive log w := (some true, w, log)
  handle log w p := do
    let (verdict, w) := w.next every (← Script.view).caps p
    let dropped := if verdict then [] else [dropLine p]
    return (.ok verdict, w, log ++ packetLine p :: dropped)
  close log w := (true, log ++ [closeLine w])

end Watch

end Intercept
