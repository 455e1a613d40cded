import Intercept.Session.Table

/-!
Pruning in the background. At every multiple of an interval the service's directory is asked which
proxies are alive, and the sessions of all others are evicted. Time is counted in milliseconds
from the start, and the interval is a whole number of these. While a call is outstanding no other
one begins; ticks that fall into that time are skipped, except for one that is made up for at once.
A signal to stop is seen between two passes; where a tick is due at the same time, either may be
seen first.
-/

namespace Intercept

/-- How the directory answers a call: what it says, and after which time, if ever. -/
structure Promise where
  delay : Option Nat
  report : Except Failure (List ProxyStatus)

inductive PrunerPhase where
  | waiting
  | calling (start : Nat) (promise : Promise)
  | stopped
  | crashed

structure PrunerConfig where
  interval : Nat := 30000
  /-- Whether a signal goes before a tick that is due too, when so many calls have been made. -/
  stopFirst : Nat → Bool := fun _ => true

/-- `due` is the time of the next tick, `calls` are the times at which calls were made. -/
structure Pruner (ω σ : Type) where
  table : Table ω σ
  directory : Promise
  due : Nat
  phase : PrunerPhase
  now : Nat := 0
  signalled : Bool := false
  calls : List Nat := []

namespace Pruner

variable {ω σ : Type}

/-- The first tick comes after one interval. Without an interval there is nothing to run. -/
def start (cfg : PrunerConfig) (table : Table ω σ) (directory : Promise) : Pruner ω σ :=
  { table := table, directory := directory, due := cfg.interval
    phase := if cfg.interval = 0 then .crashed else .waiting }

def isFinished (p : Pruner ω σ) : Bool :=
  match p.phase with
  | .stopped | .crashed => true
  | _ => false

/-- The tick after the one that was due at `due` and is seen at `now`. One that is seen more than
five milliseconds late is followed by the next multiple of the interval. -/
def nextTick (interval due now : Nat) : Nat :=
  if due + 5 < now then now + interval - (now - due) % interval else due + interval

def call (cfg : PrunerConfig) (p : Pruner ω σ) : Pruner ω σ :=
  { p with
    due := nextTick cfg.interval p.due p.now
    phase := .calling p.now p.directory
    calls := p.calls ++ [p.now] }

def apply (code : SessionCode ω σ) (p : Pruner ω σ)
    (report : Except Failure (List ProxyStatus)) : Pruner ω σ :=
  let (r, t) := p.table.reconcile code report
  let fine := match r with
    | .ok none => false
    | _ => true
  { p with table := t, phase := if fine then .waiting else .crashed }

/-- When the promise of a call comes due. -/
def answerTime (start : Nat) (promise : Promise) : Option Nat := promise.delay.map (start + ·)

/-- The one thing that is due now, if anything is. -/
def step? (cfg : PrunerConfig) (code : SessionCode ω σ) (p : Pruner ω σ) : Option (Pruner ω σ) :=
  match p.phase with
  | .waiting =>
    if p.signalled && (p.now < p.due || cfg.stopFirst p.calls.length) then
      some { p with phase := .stopped }
    else if p.due ≤ p.now then some (p.call cfg)
    else none
  | .calling start promise =>
    match answerTime start promise with
    | some t => if t ≤ p.now then some (p.apply code promise.report) else none
    | none => none
  | .stopped => none
  | .crashed => none

def steps (cfg : PrunerConfig) (code : SessionCode ω σ) : Nat → Pruner ω σ → Pruner ω σ
  | 0, p => p
  | n + 1, p =>
    match p.step? cfg code with
    | some q => steps cfg code n q
    | none => p

/-- Does all that is due now: an answer, ticks with their answers, and the stop. No more than six
ticks can be due at once, as a tick that is very late skips the others. -/
def settle (cfg : PrunerConfig) (code : SessionCode ω σ) (p : Pruner ω σ) : Pruner ω σ :=
  p.steps cfg code 14

/-- When something will be due, as far as that is known. -/
def nextTime (p : Pruner ω σ) : Option Nat :=
  match p.phase with
  | .waiting => some p.due
  | .calling start promise => answerTime start promise
  | _ => none

/-- Lets time go on to `target`; whatever comes due on the way is done at its time. -/
def advance (cfg : PrunerConfig) (code : SessionCode ω σ) (target : Nat) :
    (fuel : Nat) → Pruner ω σ → Pruner ω σ
  | 0, p => { p with now := target }
  | fuel + 1, p =>
    match p.nextTime with
    | some t =>
      if t ≤ target then
        advance cfg code target fuel ({ p with now := max p.now t }.settle cfg code)
      else { p with now := target }
    | none => { p with now := target }

/-- Waits. Between two things that come due at least a millisecond goes by. -/
def wait (cfg : PrunerConfig) (code : SessionCode ω σ) (ms : Nat) (p : Pruner ω σ) : Pruner ω σ :=
  p.advance cfg code (p.now + ms) (ms + 1)

/-- Waits for the end, until just before a deadline. -/
def awaitEnd (cfg : PrunerConfig) (code : SessionCode ω σ) (deadline : Nat) :
    (fuel : Nat) → Pruner ω σ → Bool × Pruner ω σ
  | 0, p => (p.isFinished, p)
  | fuel + 1, p =>
    if p.isFinished then (true, p)
    else
      match p.nextTime with
      | some t =>
        if t < deadline then
          awaitEnd cfg code deadline fuel ({ p with now := max p.now t }.settle cfg code)
        else (false, { p with now := deadline }.settle cfg code)
      | none => (false, { p with now := deadline })

/-- Signals the pruner to stop, and says whether it did within the time. With no time at all only
one that had already stopped counts. -/
def shutdown (cfg : PrunerConfig) (code : SessionCode ω σ) (timeout : Nat) (p : Pruner ω σ) :
    Bool × Pruner ω σ :=
  let q := { p with signalled := true }.settle cfg code
  if timeout = 0 then (p.isFinished, q)
  else awaitEnd cfg code (p.now + timeout) (timeout + 1) q

/-- Does something with the table, now. -/
def withTable (p : Pruner ω σ) (t : Table ω σ) : Pruner ω σ := { p with table := t }

def setDirectory (p : Pruner ω σ) (promise : Promise) : Pruner ω σ :=
  { p with directory := promise }

end Pruner

end Intercept
