import Intercept.Channel.Script
import Intercept.Notice

/-!
An open channel: its handle, what has arrived and was not read yet, and the loop that reads and
writes. A round of the loop does the first of these that there is to do: stop because it was
closed, write a command from the queue, read what has arrived. What is left in the queue when the
channel is closed is still written. A packet's verdict, and whatever the hook sent for it, is
written before anything else is read.
-/

namespace Intercept

inductive Frame where
  | text (s : String)
  | binary (data : List UInt8)
  | ping (data : List UInt8)
  | pong (data : List UInt8)
  | close
deriving DecidableEq, Repr

/-- What comes in: a frame, the end of the stream, or a failure of the transport. -/
inductive Arrival where
  | frame (f : Frame)
  | finished
  | broken (text : String)
deriving DecidableEq, Repr

/-- What the loop has done that others can see. -/
inductive Deed where
  | asked (p : Packet)
  | wrote (q : Queued)
deriving DecidableEq, Repr

inductive Phase where
  | running
  | closing (result : Except Failure Unit)
  | ended (result : Except Failure Unit)

/-- `sink` holds the transport's complaint once nothing can be written any more. -/
structure Channel (σ : Type) where
  handle : Handle
  hook : σ
  arrived : List Arrival := []
  sink : Option String := none
  deeds : List Deed := []
  phase : Phase := .running
  joined : Bool := false

namespace Channel

variable {σ : Type}

/-- A channel whose connection has just been made. -/
def opened (caps : Capabilities) (hook : σ) : Channel σ :=
  { handle := Handle.detached caps, hook := hook }

/-- Takes these commands out of the queue and writes them, until one cannot be written. -/
def writeAll : List Queued → Channel σ → Option Failure × Channel σ
  | [], c => (none, c)
  | q :: qs, c =>
    let c := { c with handle := { c.handle with queue := qs } }
    match c.sink with
    | some text => (some (.transport text), c)
    | none => writeAll qs { c with deeds := c.deeds ++ [.wrote q] }

def flush (c : Channel σ) : Option Failure × Channel σ := writeAll c.handle.queue c

/-- Takes the first command out of the queue and writes it. -/
def writeFirst (q : Queued) (qs : List Queued) (c : Channel σ) : Option Failure × Channel σ :=
  let c := { c with handle := { c.handle with queue := qs } }
  match c.sink with
  | some text => (some (.transport text), c)
  | none => (none, { c with deeds := c.deeds ++ [.wrote q] })

/-- Asks the hook, and queues its verdict if the service waits for one. No verdict means no. -/
def ask (hook : Hook σ) (p : Packet) (c : Channel σ) : Option Failure × Channel σ :=
  let ((verdict, s), h) := (hook.decide c.hook p).run c.handle
  let c := { c with handle := h, hook := s, deeds := c.deeds ++ [.asked p] }
  if c.handle.caps.filter && !p.isInjected then
    match c.handle.put ⟨Command.filter p.number (verdict.getD false), true⟩ with
    | .ok h => (none, { c with handle := h })
    | .error f => (some f, c)
  else (none, c)

def hear (hook : Hook σ) (s : String) (c : Channel σ) : Option Failure × Channel σ :=
  match Notice.decode s with
  | .error v => (some (.protocol v), c)
  | .ok (.failure status payload) =>
    if status = Notice.timeout then (none, c) else (some (.remote status payload.plain), c)
  | .ok (.packet p) => c.ask hook p

/-- What reading a frame comes to. -/
inductive Heard where
  | goOn
  | stop
  | fail (f : Failure)

def hearFrame (hook : Hook σ) (c : Channel σ) : Frame → Heard × Channel σ
  | .text s =>
    match c.hear hook s with
    | (none, c) => (.goOn, c)
    | (some f, c) => (.fail f, c)
  | .binary _ => (.fail (.protocol .binary), c)
  | .ping _ => (.goOn, c)
  | .pong _ => (.goOn, c)
  | .close => (.stop, c)

/-- The loop has its result; the connection is being closed. -/
def finish (result : Except Failure Unit) (c : Channel σ) : Channel σ :=
  { c with
    handle := { c.handle.close with state := .closing }
    phase := .closing result }

/-- Goes on, or finishes with a failure. -/
def orFinish : Option Failure × Channel σ → Channel σ
  | (none, c) => c
  | (some f, c) => c.finish (.error f)

def read (hook : Hook σ) (c : Channel σ) : Arrival → Channel σ
  | .finished => c.finish (.ok ())
  | .broken text => c.finish (.error (.transport text))
  | .frame f =>
    match c.hearFrame hook f with
    | (.goOn, c) => orFinish c.flush
    | (.stop, c) => c.finish (.ok ())
    | (.fail f, c) => c.finish (.error f)

/-- One round of the loop. -/
def tick (hook : Hook σ) (c : Channel σ) : Channel σ :=
  match c.phase with
  | .running =>
    if c.handle.cancelled then c.flush.2.finish (.ok ())
    else
      match c.handle.queue, c.arrived with
      | q :: qs, _ => orFinish (c.writeFirst q qs)
      | [], a :: rest => read hook { c with arrived := rest } a
      | [], [] => c
  | .closing result =>
    { c with
      handle := { c.handle with state := .closed, received := false, queue := [] }
      phase := .ended result }
  | .ended _ => c

/-- What can happen to a channel. -/
inductive Action where
  | use (via : Nat) (s : Sending)
  | close (via : Nat)
  | arrive (a : Arrival)
  | breakSink (text : String)
  | tick

/-- Does one action; the result is that of a use of the handle. -/
def act (hook : Hook σ) (c : Channel σ) : Action → Except Failure Unit × Channel σ
  | .use via s =>
    let (r, h) := c.handle.use via (.send s)
    (r, { c with handle := h })
  | .close via =>
    let (r, h) := c.handle.use via .close
    (r, { c with handle := h })
  | .arrive a => (.ok (), { c with arrived := c.arrived ++ [a] })
  | .breakSink text => (.ok (), { c with sink := some text })
  | .tick => (.ok (), c.tick hook)

def run (hook : Hook σ) (c : Channel σ) (actions : List Action) : Channel σ :=
  actions.foldl (fun c a => (c.act hook a).2) c

/-- Rounds until there is nothing to do: each one reads or writes something, or ends. -/
def settle (hook : Hook σ) (c : Channel σ) : Channel σ :=
  Nat.repeat (tick hook) (c.handle.queue.length + c.arrived.length + 3) c

/-- The result of the loop, once; whoever joins again learns nothing more. -/
def join (c : Channel σ) : Option (Except Failure Unit) × Channel σ :=
  match c.phase with
  | .ended result => (some (if c.joined then .ok () else result), { c with joined := true })
  | _ => (none, c)

/-- The packets that the hook was asked about, in order. -/
def asked (c : Channel σ) : List Packet :=
  c.deeds.filterMap fun
    | .asked p => some p
    | .wrote _ => none

/-- The commands that were written, in order. -/
def written (c : Channel σ) : List Queued :=
  c.deeds.filterMap fun
    | .asked _ => none
    | .wrote q => some q

end Channel

end Intercept
