import Intercept.Json.Record

/-!
Captured packets. The lowest flag says that the payload travels to the server, the next one that
the packet was injected and not captured; the direction decides which of the two addresses is the
client.
-/

namespace Intercept

abbrev ProxyId := Int64

structure Flags where
  bits : UInt32
deriving DecidableEq, Repr

namespace Flags

def toServer : Flags := ⟨1⟩
def injected : Flags := ⟨2⟩

def union (a b : Flags) : Flags := ⟨a.bits ||| b.bits⟩

def contains (a b : Flags) : Bool := a.bits &&& b.bits == b.bits

def isServerBound (a : Flags) : Bool := a.contains toServer
def isClientBound (a : Flags) : Bool := !a.isServerBound
def isInjected (a : Flags) : Bool := a.contains injected

def cell : Json.Cell Flags where
  ofText levels cs := do
    let (n, rest) ← Json.Cell.u32.ofText levels cs
    .ok (⟨n⟩, rest)
  ofTree v := do .ok ⟨← Json.Cell.u32.ofTree v⟩
  toTree a := Json.Cell.u32.toTree a.bits

end Flags

/-- `number` counts the packets of a channel; it is `-1` for one that awaits no verdict. -/
structure Packet where
  number : Int64
  network : String
  source : String
  proxy : ProxyId
  dest : String
  data : List UInt8
  flags : Flags
deriving DecidableEq, Repr

namespace Packet

def isServerBound (p : Packet) : Bool := p.flags.isServerBound
def isInjected (p : Packet) : Bool := p.flags.isInjected
def isTcp (p : Packet) : Bool := p.network == "tcp"

def client (p : Packet) : String := if p.isServerBound then p.source else p.dest
def server (p : Packet) : String := if p.isServerBound then p.dest else p.source

def record : Json.Record Packet where
  name := "Packet"
  fields := [
    ⟨"PktNum", Int64, .i64, none⟩,
    ⟨"Network", String, .string, none⟩,
    ⟨"Source", String, .string, none⟩,
    ⟨"ProxyId", Int64, .i64, none⟩,
    ⟨"Dest", String, .string, none⟩,
    ⟨"Data", List UInt8, .payload, none⟩,
    ⟨"Flags", Flags, Flags.cell, none⟩]
  ofRow := fun (number, network, source, proxy, dest, data, flags, ()) =>
    ⟨number, network, source, proxy, dest, data, flags⟩
  toRow p := (p.number, p.network, p.source, p.proxy, p.dest, p.data, p.flags, ())

end Packet

end Intercept
