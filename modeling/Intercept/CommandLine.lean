import Intercept.Capabilities
import Intercept.Config
import Intercept.Log
import Intercept.Text.Terminal

/-!
The viewer's command line. An option takes its value from the word behind it or from behind an
equals sign; what the words leave open comes from the environment, and after that from defaults.
-/

namespace Intercept

inductive Setting where
  | url
  | key
  | filter
  | inject
  | close
  | defaultAction
  | network
  | dropEvery
  | apiTimeout
  | pruneInterval
  | shutdownTimeout
  | logMode
deriving DecidableEq, Repr

namespace Setting

def all : List Setting := [
  .url, .key, .filter, .inject, .close, .defaultAction, .network, .dropEvery, .apiTimeout,
  .pruneInterval, .shutdownTimeout, .logMode]

def name : Setting → String
  | .url => "url"
  | .key => "key"
  | .filter => "filter"
  | .inject => "inject"
  | .close => "close"
  | .defaultAction => "default_action"
  | .network => "network"
  | .dropEvery => "drop_every"
  | .apiTimeout => "api_timeout"
  | .pruneInterval => "prune_interval"
  | .shutdownTimeout => "shutdown_timeout"
  | .logMode => "log_mode"

/-- The variable of the environment that stands in for the option. -/
def envName : Setting → String
  | .key => "EZPROXY_API_KEY"
  | s => "EZPROXY_" ++ s.name.toUpper

def ofName? (name : String) : Option Setting := all.find? (·.name == name)

/-- The option as it is shown in messages. -/
def shown (s : Setting) : String := s!"--{s.name} <{s.name.toUpper}>"

def isSwitch : Setting → Bool
  | .filter | .inject | .close => true
  | _ => false

/-- The line with the values there are, shown when one is refused. -/
def choices (s : Setting) : String :=
  if s.isSwitch then "\n  [possible values: true, false]" else ""

end Setting

/-- What the viewer was told. -/
structure Arguments where
  url : String := "http://127.0.0.1:8080"
  key : String := ""
  filter : Bool := true
  inject : Bool := false
  close : Bool := false
  defaultAction : Option String := none
  network : Option String := none
  dropEvery : UInt64 := 0
  apiTimeout : Span := Span.ofSeconds 15
  pruneInterval : Span := Span.ofSeconds 30
  shutdownTimeout : Span := Span.ofSeconds 5
  logMode : String := "info"
deriving DecidableEq, Repr

/-- Why the words were not taken, or which text was asked for instead. -/
inductive Refusal where
  | help
  | version
  | unknown (word : String)
  | unneededValue (word value : String)
  | noValue (s : Setting)
  | notAChoice (s : Setting) (given : String)
  | notValid (s : Setting) (given why : String)
  | repeated (s : Setting)
  | missing (s : Setting)
deriving DecidableEq, Repr

def programVersion : String := "ezproxy-client 0.1.0"

namespace Refusal

/-- Pieces that end with the words on where to read more. -/
def withHint (pieces : List String) (last : String) : List String :=
  pieces ++ [last ++ "\n\nFor more information, try '", "--help", "'."]

/-- The pieces of a message. What was given and the names of options are set off by their colour,
so that no sequence reaches from one piece into another. -/
def pieces : Refusal → List String
  | .help => []
  | .version => [programVersion]
  | .unknown word => withHint ["error: unexpected argument '", word] "' found"
  | .unneededValue word value =>
    withHint ["error: unexpected value '", value, "' for '", word]
      "' found; no more were expected"
  | .noValue s =>
    withHint ["error: a value is required for '", s.shown] s!"' but none was supplied{s.choices}"
  | .notAChoice s given =>
    withHint ["error: invalid value '", given, "' for '", s.shown] s!"'{s.choices}"
  | .notValid s given why =>
    withHint ["error: invalid value '", given, "' for '", s.shown] s!"': {why}"
  | .repeated s =>
    withHint ["error: the argument '", s.shown] "' cannot be used multiple times"
  | .missing s =>
    withHint ["error: the following required arguments were not provided:\n  ", s.shown] ""

def message (r : Refusal) : String := String.join (r.pieces.map Text.plain)

/-- Only a request for a text is no fault. -/
def isFault : Refusal → Bool
  | .help => false
  | .version => false
  | _ => true

end Refusal

namespace Arguments

def switch (s : Setting) (given : String) : Except Refusal Bool :=
  if given = "true" then .ok true
  else if given = "false" then .ok false
  else if given.isEmpty then .error (.noValue s)
  else .error (.notAChoice s given)

def count (s : Setting) (given : String) : Except Refusal UInt64 :=
  let cs := given.toList
  let ds := match cs with
    | '+' :: rest => rest
    | rest => rest
  if cs.isEmpty then .error (.notValid s given "cannot parse integer from empty string")
  else if ds.isEmpty || !ds.all Char.isDigit then
    .error (.notValid s given "invalid digit found in string")
  else
    let n := Nat.ofDigitChars 10 ds 0
    if n < UInt64.size then .ok (UInt64.ofNat n)
    else .error (.notValid s given "number too large to fit in target type")

def span (s : Setting) (given : String) : Except Refusal Span :=
  match Span.ofText? given with
  | some d => .ok d
  | none => .error (.notValid s given
      s!"Invalid duration '{given}'. Use formats like '30s', '2m' or plain seconds")

/-- Takes the value of one option. -/
def set (a : Arguments) (s : Setting) (given : String) : Except Refusal Arguments :=
  match s with
  | .url => .ok { a with url := given }
  | .key => .ok { a with key := given }
  | .filter => do .ok { a with filter := ← switch s given }
  | .inject => do .ok { a with inject := ← switch s given }
  | .close => do .ok { a with close := ← switch s given }
  | .defaultAction => .ok { a with defaultAction := some given }
  | .network => .ok { a with network := some given }
  | .dropEvery => do .ok { a with dropEvery := ← count s given }
  | .apiTimeout => do .ok { a with apiTimeout := ← span s given }
  | .pruneInterval => do .ok { a with pruneInterval := ← span s given }
  | .shutdownTimeout => do .ok { a with shutdownTimeout := ← span s given }
  | .logMode => .ok { a with logMode := given }

end Arguments

namespace CommandLine

/-- What has been read: the options that have come, and the last one as long as it is not settled.
That one may still be without the word that is its value. -/
structure State where
  arguments : Arguments := {}
  given : List Setting := []
  pending : Option (Setting × Option String) := none

def State.accept (st : State) (s : Setting) (value : String) : Except Refusal State :=
  if st.given.contains s then .error (.repeated s)
  else do .ok { st with arguments := ← st.arguments.set s value, given := s :: st.given }

/-- Looks at the last option and its value, once the next known option or the end has come. Words
that are not known are noticed before that. -/
def State.settle (st : State) : Except Refusal State :=
  match st.pending with
  | some (s, some value) => { st with pending := none }.accept s value
  | some (s, none) => .error (.noValue s)
  | none => .ok st

inductive Word where
  | rest
  | long (name : String) (value : Option String)
  | short (letter : Char)
  | plain
deriving DecidableEq, Repr

def Word.ofText (s : String) : Word :=
  match s.toList with
  | ['-', '-'] => .rest
  | '-' :: '-' :: cs =>
    let name := String.ofList (cs.takeWhile (· ≠ '='))
    match cs.dropWhile (· ≠ '=') with
    | [] => .long name none
    | _ :: value => .long name (some (String.ofList value))
  | '-' :: c :: _ => .short c
  | _ => .plain

/-- Words up to their end, or up to the one that ends the options. -/
def words (st : State) : List String → Except Refusal State
  | [] => st.settle
  | w :: ws =>
    match Word.ofText w with
    | .rest =>
      match ws with
      | [] => st.settle
      | x :: _ => .error (.unknown x)
    | .long name value =>
      if name = "help" ∨ name = "version" then
        match value with
        | some v => .error (.unneededValue s!"--{name}" v)
        | none => do
          let _ ← st.settle
          .error (if name = "help" then .help else .version)
      else
        match Setting.ofName? name, value with
        | none, _ => .error (.unknown s!"--{name}")
        | some s, some v => do words (← (← st.settle).accept s v) ws
        | some s, none => do words { ← st.settle with pending := some (s, none) } ws
    | .short c =>
      if c = 'h' then do
        let _ ← st.settle
        .error .help
      else if c = 'V' then do
        let _ ← st.settle
        .error .version
      else .error (.unknown (String.ofList ['-', c]))
    | .plain =>
      match st.pending with
      | some (s, none) => words { st with pending := some (s, some w) } ws
      | _ => .error (.unknown w)

/-- Fills in from the environment what the words did not give. -/
def fillIn (env : List (String × String)) : List Setting → State → Except Refusal State
  | [], st => .ok st
  | s :: more, st =>
    match env.lookup s.envName with
    | some v =>
      if st.given.contains s then fillIn env more st
      else do fillIn env more (← st.accept s v)
    | none => fillIn env more st

end CommandLine

/-- Reads the words behind the program's name, with the variables of the environment. -/
def Arguments.ofWords (words : List String) (env : List (String × String)) :
    Except Refusal Arguments := do
  let st ← CommandLine.words {} words
  let st ← CommandLine.fillIn env Setting.all st
  if st.given.contains .key then .ok st.arguments else .error (.missing .key)

/-- Why what the viewer was told makes no sense. -/
inductive ArgumentFault where
  | noUrl
  | noKey
  | logMode (given : String)
  | defaultAction (given : String)
  | unknownAction (given : String)
  | failure (f : Failure)

def ArgumentFault.message : ArgumentFault → String
  | .noUrl => "Service URL is required (--url)"
  | .noKey => "API key is required (--key)"
  | .logMode given => s!"Invalid log mode: {given}"
  | .defaultAction given => s!"Invalid default action '{given}': expected drop or allow"
  | .unknownAction given => s!"Invalid default action: {given}"
  | .failure f => f.message

namespace Arguments

def logLevel (a : Arguments) : LogLevel := (LogLevel.ofText? a.logMode).getD .info

def config (a : Arguments) : Config :=
  ⟨a.url, a.key, a.apiTimeout, a.pruneInterval, a.shutdownTimeout⟩

def capabilities (a : Arguments) : Except ArgumentFault Capabilities := do
  let action ← match a.defaultAction with
    | none => .ok none
    | some given =>
      match DefaultAction.ofText? given with
      | some action => .ok (some action)
      | none => .error (.unknownAction given)
  .ok ⟨a.filter, a.inject, a.close, action, a.network.map Text.lower⟩

def checkAction (a : Arguments) : Except ArgumentFault Unit :=
  match a.defaultAction with
  | none => .ok ()
  | some given =>
    if (DefaultAction.ofText? given).isSome then .ok () else .error (.defaultAction given)

def check (a : Arguments) : Except ArgumentFault Unit := do
  if a.url.isEmpty then .error .noUrl
  if a.key.isEmpty then .error .noKey
  if (LogLevel.ofText? a.logMode).isNone then .error (.logMode a.logMode)
  a.checkAction
  (← a.capabilities).check.mapError .failure
  a.config.check.mapError .failure

end Arguments

end Intercept
