import Intercept.Viewer

/-!
The viewer as a program. It has no transport of its own, so it never reaches the service.
-/

namespace Intercept

def Setting.helpLines : List String :=
  "Usage: ezproxy-view [OPTIONS] --key <KEY>" :: "" :: "Options:" ::
    Setting.all.map fun s => s!"      {s.shown} [env: {s.envName}]"

def environment : IO (List (String × String)) :=
  Setting.all.filterMapM fun s => do
    return (← IO.getEnv s.envName).map fun value => (s.envName, value)

def answerRefusal (r : Refusal) : IO UInt32 := do
  match r with
  | .help => IO.println (String.intercalate "\n" Setting.helpLines)
  | .version => IO.println r.message
  | r => IO.eprintln r.message
  return if r.isFault then 2 else 0

end Intercept

open Intercept in
def main (words : List String) : IO UInt32 := do
  match Arguments.ofWords words (← environment) with
  | .error r => answerRefusal r
  | .ok a =>
    let filter := Viewer.filter a.logLevel (← IO.getEnv Viewer.filterVariable)
    let t := Viewer.run a (Peer.absent "no transport")
    for line in t.shown filter Viewer.target do
      IO.println line
    if t.fault.isSome then
      IO.eprintln t.complaint
    return UInt32.ofNat t.exitCode
