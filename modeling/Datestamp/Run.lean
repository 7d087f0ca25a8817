import Datestamp.Arguments
import Datestamp.Event
import Datestamp.Help
import Datestamp.ProgramName
import Datestamp.Stamp

/-!
# Runs

A whole run, from the command line to an exit code and two texts: what is printed, and the
diagnostics. Help comes before the version and both before a stamp, but only after every argument
has been checked. Events are told in the diagnostics, as far as the surroundings ask for them, and
change nothing else.
-/

namespace Datestamp

/-- The settings that a run takes from its surroundings. -/
structure Environment where
  path : Option Text     -- by which the program is called
  command : Option Text  -- the program's name instead of the last one on its path
  suite : Option Text    -- what stands before the name in diagnostics
  events : Option Text   -- which events are told, if any

/-- What a run leaves behind. -/
structure Outcome where
  code : Nat
  output : Text
  diagnostics : Text
deriving DecidableEq, Repr

namespace Environment

def programName (env : Environment) : ProgramName :=
  .resolve env.path env.command env.suite

/-- The lines of the events that are wanted. -/
def tell (env : Environment) (events : List Event) : Text :=
  match env.events with
  | none => []
  | some specification =>
    let filters := EventFilter.parse specification
    (events.filter fun e => EventFilter.accepts filters e.level e.target).flatMap fun e =>
      e.line ++ ['\n']

/-- The line that reports a problem. -/
def report (env : Environment) (p : Problem) : Text :=
  env.programName.diagnosticName ++ ": ERROR: ".toList ++ p.message ++ ['\n']

end Environment

namespace Run

/-- The time on the clock, which must be no earlier than 1970 and fit a word of 64 bits. -/
def clockTime (host : Host) : Except Problem Int :=
  if host.now < 0 then .error .clockBeforeEpoch
  else if ¬FitsInt64 host.now then .error .clockOutOfRange
  else .ok host.now

/-- The change time of a file. -/
def fileTime (host : Host) (path : Text) : Except Problem Int :=
  (host.changeTime path).mapError (.noChangeTime path)

/-- The instant to print: the change time of a file if one is given, and now otherwise. -/
def instant (host : Host) : Option Text → Except Failure Int
  | none => (clockTime host).mapError .problem
  | some path => (fileTime host path).mapError .problem

/-- The line to print and the events on the way to it. -/
def printStamp (host : Host) (file : Option Text) (format : Text) :
    Except Failure (List Event × Except Fault Text) := do
  let instant ← instant host file
  let (stamp, zone) ← LocalTime.observe host instant
  return ([.resolved instant stamp zone, .compiled format], stampLine format stamp zone)

/-- The outcome of a run that ends in a failure: a problem is reported with exit code 1, a fault
ends the run with exit code 101. -/
def fail (env : Environment) (told : Text) : Failure → Outcome
  | .problem p => ⟨1, [], told ++ env.report p⟩
  | .fault f => ⟨101, [], told ++ f.message ++ ['\n']⟩

/-- The outcome of a run that prints a stamp. -/
def stamp (env : Environment) (host : Host) (file : Option Text) (format : Text) : Outcome :=
  match printStamp host file format with
  | .error failure => fail env [] failure
  | .ok (events, .error fault) => fail env (env.tell events) (.fault fault)
  | .ok (events, .ok line) => ⟨0, line ++ ['\n'], env.tell events⟩

/-- The outcome of a whole run. -/
def run (env : Environment) (host : Host) (arguments : List Text) : Outcome :=
  match Arguments.parse arguments with
  | .error p => fail env [] (.problem p)
  | .ok a =>
    if a.help then ⟨0, helpText env.programName.name, []⟩
    else if a.version then ⟨0, ProgramName.version ++ ['\n'], []⟩
    else stamp env host a.file a.format

end Run

end Datestamp
