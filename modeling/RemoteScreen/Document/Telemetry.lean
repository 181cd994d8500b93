import RemoteScreen.Document.Value
import RemoteScreen.Telemetry.Basic

/-! What telemetry channels have taken, as JSON documents. -/
namespace RemoteScreen

def Event.toDocument (e : Event) : Json := .list [.text e.name, e.attributes.toDocument]

def Metric.toDocument (m : Metric) : Json :=
  .list [.text m.name, Value.floatDocument m.value, m.attributes.toDocument]

def Destination.className : Destination → String
  | nowhere => "NullSink"
  | journal => "LogSink"
  | memory => "MemorySink"

namespace Channel

def entries (c : Channel) : List (String × Json) :=
  [("events", .list (c.events.map Event.toDocument)),
    ("metrics", .list (c.metrics.map Metric.toDocument))]

/-- A channel, with what it took if it keeps anything. -/
def status (c : Channel) : List (String × Json) :=
  [("enabled", .bool c.enabled), ("sink", .text c.destination.className)] ++
    if c.destination = .memory then
      c.entries ++ [("event_names", .texts (c.events.map Event.name)),
        ("metric_names", .texts (c.metrics.map Metric.name))]
    else []

end Channel
end RemoteScreen
