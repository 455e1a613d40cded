import Intercept.Log

/-!
Which lines of the log are shown. Each part of the program writes under a target; of the directives
whose target is a beginning of it, the longest decides, and of two equally long ones the last.
-/

namespace Intercept

/-- Shows the lines under a target from some level on, or none of them. -/
structure LogDirective where
  target : String
  level : Option LogLevel
deriving DecidableEq, Repr

abbrev LogFilter := List LogDirective

namespace LogDirective

def off : String := "off"

/-- Levels by name or by number, where a larger number shows more. -/
def level? (s : String) : Option (Option LogLevel) :=
  let s := s.toLower
  if s = off ∨ s = "0" then some none
  else if s = "" ∨ s = "1" then some (some .error)
  else if s = "2" then some (some .warn)
  else if s = "3" then some (some .info)
  else if s = "4" then some (some .debug)
  else if s = "5" then some (some .trace)
  else (LogLevel.all.find? (·.name == s)).map some

/-- A level alone is for every target, a target alone is for every level. -/
def ofText? (s : String) : Option LogDirective :=
  let cs := s.toList
  let target := String.ofList (cs.takeWhile (· != '='))
  match cs.dropWhile (· != '=') with
  | [] =>
    match level? s with
    | some level => some ⟨"", level⟩
    | none => some ⟨s, some .trace⟩
  | _ :: level => (level? (String.ofList level)).map fun level => ⟨target, level⟩

def covers (d : LogDirective) (target : String) : Bool := d.target.toList.isPrefixOf target.toList

def shows (d : LogDirective) (line : LogLevel) : Bool := d.level.any (·.shows line)

end LogDirective

namespace LogFilter

/-- Directives between commas. No directive at all means errors only. -/
def ofText? (s : String) : Option LogFilter :=
  if s.isEmpty then some [⟨"", some .error⟩]
  else (((s.splitOn ",").filter (!·.isEmpty)).mapM LogDirective.ofText?)

def decisive (filter : LogFilter) (target : String) : Option LogDirective :=
  (filter.filter (·.covers target)).foldl
    (fun best d =>
      match best with
      | some b => if d.target.length < b.target.length then some b else some d
      | none => some d)
    none

def shows (filter : LogFilter) (target : String) (line : LogLevel) : Bool :=
  (filter.decisive target).any (·.shows line)

end LogFilter

end Intercept
