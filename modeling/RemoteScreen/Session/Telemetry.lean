import RemoteScreen.Session.Basic

/-! Reporting to telemetry channels: events, counters and timers. -/
namespace RemoteScreen
namespace Session

variable {υ α : Type}

def addChannel (c : Channel) : Act υ Nat := do
  let (t, n) := (← get).telemetry.add c
  modify fun s => { s with telemetry := t }
  pure n

/-- The channel of the whole process, disabled until there is another. -/
def processChannel : Act υ Nat := do
  match (← get).telemetry.processWide with
  | some n => pure n
  | none =>
    let n ← addChannel {}
    modify fun s => { s with telemetry := { s.telemetry with processWide := some n } }
    pure n

def setProcessChannel (c : Channel) : Act υ Unit := do
  let n ← addChannel c
  modify fun s => { s with telemetry := { s.telemetry with processWide := some n } }

def channelOr (channel : Option Nat) : Act υ Nat :=
  match channel with
  | some n => pure n
  | none => processChannel

def readClock : Act υ Float := do
  match (← get).telemetry.clock with
  | [] => pure 0.0
  | [x] => pure x
  | x :: xs =>
    modify fun s => { s with telemetry := { s.telemetry with clock := xs } }
    pure x

def updateChannel (n : Nat) (f : Channel → Channel) : Act υ Unit :=
  modify fun s => { s with
    telemetry := { s.telemetry with channels := s.telemetry.channels.modify n f } }

def emitEvent (n : Nat) (e : Event) : Act υ Unit := do
  match (← get).telemetry.channels[n]? with
  | some ⟨true, .memory, _, _⟩ => updateChannel n fun c => { c with events := c.events ++ [e] }
  | some ⟨true, .journal, _, _⟩ =>
    log .info "telemetry"
      s!"telemetry.event name={e.name} attrs={(Value.map e.attributes).shown}"
  | _ => pure ()

def emitMetric (n : Nat) (m : Metric) : Act υ Unit := do
  match (← get).telemetry.channels[n]? with
  | some ⟨true, .memory, _, _⟩ => updateChannel n fun c => { c with metrics := c.metrics ++ [m] }
  | some ⟨true, .journal, _, _⟩ =>
    let value := Number.floatText m.value
    log .info "telemetry"
      s!"telemetry.metric name={m.name} value={value} attrs={(Value.map m.attributes).shown}"
  | _ => pure ()

def isEnabled (n : Nat) : Act υ Bool := do
  pure (((← get).telemetry.channels[n]?.map Channel.enabled).getD false)

/-- Reports a number; a disabled channel does not even look at it. -/
def count (n : Nat) (name : String) (value : Value) (attributes : Attributes := []) :
    Act υ Unit := do
  if ← isEnabled n then
    match value.toFloat with
    | .ok x => emitMetric n ⟨name, x, attributes⟩
    | .error e => fail (.value e)

/-- A timer that has been started. -/
structure Timer where
  channel : Nat
  name : String
  attributes : Attributes
  start : Float

def startTimer (channel : Nat) (name : String) (attributes : Attributes := []) : Act υ Timer := do
  pure ⟨channel, name, attributes, ← readClock⟩

/-- Reports the whole milliseconds since the start, rounded towards zero. -/
def stopTimer (t : Timer) : Act υ Unit := do
  let stop ← readClock
  match (Value.float ((stop - t.start) * 1000.0)).toInt with
  | .ok ms => count t.channel t.name (.int ms) t.attributes
  | .error e => fail (.value e)

/-- Times a step. The time is reported whether the step fails or not, and a failure goes on. -/
def timed (channel : Nat) (name : String) (attributes : Attributes) (body : Act υ α) :
    Act υ α := do
  let t ← startTimer channel name attributes
  let r ← attempt body
  stopTimer t
  ofExcept r

end Session
end RemoteScreen
