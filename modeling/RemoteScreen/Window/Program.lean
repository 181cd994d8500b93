import RemoteScreen.Log.Setup
import RemoteScreen.Telemetry.Setup
import RemoteScreen.Window.Application

/-! The program: settings from the environment, the log and telemetry, and then the window. -/
namespace RemoteScreen
namespace Session

/-- From here on the log keeps what is not below its level. -/
def initLog (settings : Settings) : Act Ui Log.Setup := do
  let (setup, r) := Log.Setup.init {} (some settings)
  ofExcept r
  modify fun s => { s with journal := { s.journal with threshold := setup.threshold } }
  pure setup

/-- Opens the window that the environment asks for, and starts the first fetch. -/
def runProgram (environment : List (String × String)) : Act Ui (Settings × Log.Setup) := do
  let settings := Settings.fromEnvironment environment
  let setup ← initLog settings
  initTelemetry settings
  openApplication { settings }
  reload
  pure (settings, setup)

end Session
end RemoteScreen
