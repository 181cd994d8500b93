import RemoteScreen.Session.Telemetry
import RemoteScreen.Settings
import RemoteScreen.Text.Case

/-! Setting up the telemetry of the whole process. -/
namespace RemoteScreen

/-- The destination of a name; an unknown one leads nowhere. -/
def Destination.ofName (name : String) : Destination :=
  if name = "log" then .journal else if name = "memory" then .memory else .nowhere

namespace Channel

/-- The channel that settings ask for. One that is not enabled has no destination either. -/
def ofSettings (s : Settings) : Channel :=
  if (s.get "telemetry_enabled" (.bool false)).truth then
    { enabled := true
      destination :=
        .ofName (Text.lower (Text.strip (s.get "telemetry_sink" (.text "null")).display)) }
  else {}

end Channel

namespace Session

variable {υ : Type}

/-- From here on the channel that the settings ask for serves the whole process. -/
def initTelemetry (s : Settings) : Act υ Unit := setProcessChannel (.ofSettings s)

end Session
end RemoteScreen
