import RemoteScreen.Value

/-! Telemetry: events and metrics, and the channels that take them. -/
namespace RemoteScreen

structure Event where
  name : String
  attributes : Attributes

structure Metric where
  name : String
  value : Float
  attributes : Attributes

inductive Destination where
  | nowhere | journal | memory
  deriving DecidableEq, Repr

/-- A disabled channel takes nothing. -/
structure Channel where
  enabled : Bool := false
  destination : Destination := .nowhere
  events : List Event := []
  metrics : List Metric := []

namespace Channel

/-- An enabled channel that keeps everything. -/
def recording : Channel := { enabled := true, destination := .memory }

def keepsEvents (c : Channel) : Bool := c.enabled && c.destination == .memory

def clear (c : Channel) : Channel := { c with events := [], metrics := [] }

end Channel

/-- All channels, which of them serves the whole process, and the readings that the clock has yet to
give. The last reading repeats. -/
structure Telemetry where
  channels : List Channel := []
  processWide : Option Nat := none
  clock : List Float := []

namespace Telemetry

def add (t : Telemetry) (c : Channel) : Telemetry × Nat :=
  ({ t with channels := t.channels ++ [c] }, t.channels.length)

end Telemetry
end RemoteScreen
