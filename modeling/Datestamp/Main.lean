import Datestamp.Run

/-!
# The program

The outer layer: it asks the system for the settings of a run, and writes what the run leaves
behind. Change times and local times are told by the host, which is given.
-/

namespace Datestamp

/-- The settings of a program that is called by a path. -/
def systemEnvironment (path : Option Text) : IO Environment := do
  let setting (name : String) := do return (← IO.getEnv name).map String.toList
  return {
    path := path
    command := ← setting "PKM_CMD"
    suite := ← setting "PKM_NAME"
    events := ← setting "STAMP_LOG" }

/-- The program on a host: it is called by a path and its arguments, and returns its exit code. -/
def runProgram (host : Host) (call : List String) : IO UInt32 := do
  let call := call.map String.toList
  let outcome := Run.run (← systemEnvironment call.head?) host call.tail
  IO.eprint (String.ofList outcome.diagnostics)
  IO.print (String.ofList outcome.output)
  return .ofNat outcome.code

end Datestamp
