import Intercept.Service.Records
import Intercept.Session.Code

/-!
The sessions of an application, at most one for each proxy. A packet goes to the session of its
proxy, which is made if there is none; a session that is dead or fails is closed and taken out.
The table counts the sessions it has made, and each session keeps the number it was made under.

An operation has no result if session code fell apart where that is not contained: when a session
is asked whether it is alive, and when it is closed.
-/

namespace Intercept

structure Tracked (σ : Type) where
  serial : Nat
  proxy : ProxyId
  session : σ

/-- What session code was asked to do. -/
inductive SessionEvent where
  | made (serial : Nat) (proxy : ProxyId)
  | notMade (proxy : ProxyId)
  | probed (serial : Nat) (proxy : ProxyId) (alive : Option Bool)
  | handled (serial : Nat) (proxy : ProxyId)
  | closed (serial : Nat) (proxy : ProxyId)
deriving DecidableEq, Repr

/-- Sessions stand in the order in which they were made. -/
structure Table (ω σ : Type) where
  world : ω
  tracked : List (Tracked σ) := []
  made : Nat := 0
  events : List SessionEvent := []

namespace Table

variable {ω σ : Type}

def ids (t : Table ω σ) : List ProxyId := t.tracked.map (·.proxy)

def contains (t : Table ω σ) (id : ProxyId) : Bool := t.ids.contains id

def size (t : Table ω σ) : Nat := t.tracked.length

def isEmpty (t : Table ω σ) : Bool := t.tracked.isEmpty

def find? (t : Table ω σ) (id : ProxyId) : Option (Tracked σ) :=
  t.tracked.find? (·.proxy == id)

/-- Puts a session's new state in its place. -/
def keep (t : Table ω σ) (id : ProxyId) (s : σ) : Table ω σ :=
  { t with tracked := t.tracked.map fun e => if e.proxy = id then { e with session := s } else e }

def drop (t : Table ω σ) (id : ProxyId) : Table ω σ :=
  { t with tracked := t.tracked.filter (·.proxy != id) }

def note (t : Table ω σ) (e : SessionEvent) : Table ω σ := { t with events := t.events ++ [e] }

def add (t : Table ω σ) (id : ProxyId) (s : σ) : Table ω σ :=
  { t with
    tracked := t.tracked ++ [⟨t.made, id, s⟩]
    made := t.made + 1
    events := t.events ++ [.made t.made id] }

@[simp] theorem ids_keep (t : Table ω σ) (id : ProxyId) (s : σ) : (t.keep id s).ids = t.ids := by
  simp only [ids, keep, List.map_map]
  congr 1
  funext e
  simp only [Function.comp_apply]
  split <;> rfl

@[simp] theorem ids_drop (t : Table ω σ) (id : ProxyId) :
    (t.drop id).ids = t.ids.filter (· != id) := by
  simp only [ids, drop, List.filter_map]
  rfl

@[simp] theorem ids_note (t : Table ω σ) (e : SessionEvent) : (t.note e).ids = t.ids := rfl

@[simp] theorem ids_add (t : Table ω σ) (id : ProxyId) (s : σ) :
    (t.add id s).ids = t.ids ++ [id] := by
  simp [ids, add]

/-- Takes a session out and closes it; false if closing fell apart. -/
def evict (code : SessionCode ω σ) (t : Table ω σ) (e : Tracked σ) : Bool × Table ω σ :=
  let (fine, world) := code.close t.world e.session
  (fine, { (t.drop e.proxy).note (.closed e.serial e.proxy) with world := world })

/-- Takes a session out because of itself; there is no verdict then. -/
def giveUp (code : SessionCode ω σ) (t : Table ω σ) (e : Tracked σ) :
    Option (Option Bool) × Table ω σ :=
  let (fine, t) := t.evict code e
  (if fine then some none else none, t)

/-- Hands a packet to a session that is tracked. -/
def serve (code : SessionCode ω σ) (t : Table ω σ) (e : Tracked σ) (p : Packet) :
    Script (Option (Option Bool) × Table ω σ) :=
  let (alive, s, world) := code.isAlive t.world e.session
  let t := { (t.keep e.proxy s).note (.probed e.serial e.proxy alive) with world := world }
  match alive with
  | none => .done (none, t)
  | some false => .done (t.giveUp code { e with session := s })
  | some true => do
    let (outcome, s, world) ← code.handle t.world s p
    let t := { (t.keep e.proxy s).note (.handled e.serial e.proxy) with world := world }
    match outcome with
    | .ok verdict => return (some (some verdict), t)
    | _ => return t.giveUp code { e with session := s }

/-- The verdict of the session of the packet's proxy, if there is one that gives any. -/
def dispatch (code : SessionCode ω σ) (t : Table ω σ) (p : Packet) :
    Script (Option (Option Bool) × Table ω σ) :=
  match t.find? p.proxy with
  | some e => t.serve code e p
  | none => do
    let (outcome, world) ← code.create t.world p
    let t := { t with world := world }
    match outcome with
    | .ok s => (t.add p.proxy s).serve code ⟨t.made, p.proxy, s⟩ p
    | _ => return (some none, t.note (.notMade p.proxy))

/-- Evicts the sessions of these proxies, one after the other, and counts them. -/
def evictAll (code : SessionCode ω σ) : List ProxyId → Table ω σ → Option Nat × Table ω σ
  | [], t => (some 0, t)
  | id :: ids, t =>
    match t.find? id with
    | none => evictAll code ids t
    | some e =>
      let (fine, t) := t.evict code e
      if fine then
        let (n, t) := evictAll code ids t
        (n.map (· + 1), t)
      else (none, t)

/-- Evicts every session whose proxy is not among these. -/
def prune (code : SessionCode ω σ) (t : Table ω σ) (alive : List ProxyId) :
    Option Nat × Table ω σ :=
  evictAll code (t.ids.filter (!alive.contains ·)) t

def closeAll (code : SessionCode ω σ) (t : Table ω σ) : Option Nat × Table ω σ :=
  evictAll code t.ids t

/-- Whether there was a session to take out. -/
def remove (code : SessionCode ω σ) (t : Table ω σ) (id : ProxyId) : Option Bool × Table ω σ :=
  let (n, t) := evictAll code [id] t
  (n.map (0 < ·), t)

/-- The proxies that a list reports alive. -/
def aliveIds (proxies : List ProxyStatus) : List ProxyId :=
  (proxies.filter (·.alive)).map (·.id)

/-- One pass: evicts every session whose proxy is not reported alive. Without a report the table
stays as it is. -/
def reconcile (code : SessionCode ω σ) (t : Table ω σ)
    (report : Except Failure (List ProxyStatus)) : Except Failure (Option Nat) × Table ω σ :=
  match report with
  | .error f => (.error f, t)
  | .ok proxies =>
    let (n, t) := t.prune code (aliveIds proxies)
    (.ok n, t)

/-- The proxies whose sessions were closed, in order. -/
def closedIds (t : Table ω σ) : List ProxyId :=
  t.events.filterMap fun
    | .closed _ id => some id
    | _ => none

/-- The proxies for which a session was ever made, in order. -/
def madeIds (t : Table ω σ) : List ProxyId :=
  t.events.filterMap fun
    | .made _ id => some id
    | _ => none

end Table

end Intercept
