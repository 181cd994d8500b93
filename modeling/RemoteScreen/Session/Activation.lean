import RemoteScreen.Session.Telemetry

/-! Activations sent to sinks. -/
namespace RemoteScreen
namespace Session

variable {υ α : Type}

def deliver (slot : Nat) (id : String) : Act υ Unit :=
  modify fun s => { s with deliveries := s.deliveries ++ [⟨slot, id⟩] }

mutual

/-- Sends an id to a sink. A fan-out stops at the first sink that refuses. -/
def activate (id : String) : Sink → Act υ Unit
  | .memory slot => deliver slot id
  | .journal => log .info "actions" s!"Action activated id={id}"
  | .telemetry channel => do
    emitEvent (← channelOr channel) ⟨"action.activated", [("component_id", .text id)]⟩
  | .refusing => fail (.sinkRefused id)
  | .fanout sinks => activateList id sinks

def activateList (id : String) : List Sink → Act υ Unit
  | [] => pure ()
  | s :: ss => do
    activate id s
    activateList id ss

end

end Session
end RemoteScreen
