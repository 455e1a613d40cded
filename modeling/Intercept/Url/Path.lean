import Intercept.Url.Form

/-!
Paths of web addresses: segments, each behind a slash, with at least one of them. A segment that
names the place itself or the place above it is resolved while reading.
-/

namespace Intercept.Url

/-- A letter and a colon or bar: such a segment is never taken back. -/
def isDrive : List Char → Bool
  | [c, d] => c.isAlpha && (d == ':' || d == '|')
  | _ => false

def isHere (segment : List Char) : Bool :=
  [".", "%2e", "%2E"].contains (String.ofList segment)

def isUp (segment : List Char) : Bool :=
  ["..", "%2e%2e", "%2e%2E", "%2E%2e", "%2E%2E", "%2e.", "%2E.", ".%2e", ".%2E"].contains
    (String.ofList segment)

/-- Takes back the last segment; `done` has it first. -/
def stepUp : List (List Char) → List (List Char)
  | [] => []
  | segment :: done => if isDrive segment then segment :: done else done

/-- Takes one more segment that a slash follows. -/
def addSegment (done : List (List Char)) (segment : List Char) : List (List Char) :=
  if isUp segment then stepUp done else if isHere segment then done else segment :: done

/-- The segments of a path, the last one first. The last segment is always there, if empty. -/
def segments : (done : List (List Char)) → List (List Char) → List (List Char)
  | done, [] => done
  | done, [last] =>
    if isUp last then [] :: stepUp done
    else if isHere last then [] :: done
    else last :: done
  | done, segment :: more => segments (addSegment done segment) more

/-- A path as it is written: slashes turned, dots resolved, other characters encoded. -/
def pathOfText (cs : List Char) : List Char :=
  let turned := cs.map fun c => if c = '\\' then '/' else c
  let inner := match turned with
    | '/' :: rest => rest
    | rest => rest
  let parts := (Form.split '/' inner).map (encodePart refusedInPath)
  (segments [] parts).reverse.flatMap ('/' :: ·)

end Intercept.Url
