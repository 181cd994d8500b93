import RemoteScreen.Document.View
import RemoteScreen.Json.Printer
import RemoteScreen.Window.Program

/-! The command line: opens the window that the environment asks for where there is neither a
display nor a network, shows what the first fetch leads to, and prints the window. Log lines go to
the error stream. -/
namespace RemoteScreen

/-- The variables of the environment that settings are made from. -/
def readEnvironment : IO (List (String × String)) :=
  Settings.environmentVariables.filterMapM fun v => do
    pure ((← IO.getEnv v.name).map fun raw => (v.name, raw))

/-- The first fetch, and the moment at which its result is shown. -/
def firstScreen (environment : List (String × String)) : Act Ui String := do
  let _ ← Session.runProgram environment
  let _ ← Session.runWorker
  Session.tick Session.collectMs.toNat
  pure ((← Session.theKit).toDocument Session.window).print

end RemoteScreen

def main : IO UInt32 := do
  let environment ← RemoteScreen.readEnvironment
  let (result, session) := (RemoteScreen.firstScreen environment).run.run { ui := {} }
  for line in session.journal.lines do
    IO.eprintln line
  match result with
  | .ok text =>
    IO.println text
    pure 0
  | .error e =>
    IO.eprintln e.message
    pure 1
