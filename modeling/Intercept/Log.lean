import Intercept.Text.Lower

/-!
Levels of the log, from the most to the least talkative, and its lines.
-/

namespace Intercept

inductive LogLevel where
  | trace
  | debug
  | info
  | warn
  | error
deriving DecidableEq, Repr

namespace LogLevel

def name : LogLevel → String
  | .trace => "trace"
  | .debug => "debug"
  | .info => "info"
  | .warn => "warn"
  | .error => "error"

def all : List LogLevel := [.trace, .debug, .info, .warn, .error]

def ofText? (s : String) : Option LogLevel :=
  let s := Text.lower s
  all.find? (·.name == s)

def rank : LogLevel → Nat
  | .trace => 0
  | .debug => 1
  | .info => 2
  | .warn => 3
  | .error => 4

/-- Whether a line of a level is shown in a log of this level. -/
def shows (level line : LogLevel) : Bool := level.rank ≤ line.rank

end LogLevel

/-- A line of the log, with named values behind its message. -/
structure LogLine where
  level : LogLevel
  message : String
  values : List (String × String) := []
deriving DecidableEq, Repr

def LogLine.text (l : LogLine) : String :=
  String.intercalate " "
    (l.level.name.toUpper :: l.message :: l.values.map fun (name, value) => s!"{name}={value}")

end Intercept
