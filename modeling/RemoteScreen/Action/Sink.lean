/-! Action sinks: where activations go. A sink learns the id of what was activated and nothing
else. -/
namespace RemoteScreen

inductive Sink where
  /-- Keeps the ids it gets, under its number. -/
  | memory (slot : Nat)
  | journal
  /-- A telemetry channel; without a number, the one of the whole process. -/
  | telemetry (channel : Option Nat)
  | refusing
  | fanout (sinks : List Sink)

/-- One id received by one recording sink. -/
structure Delivery where
  slot : Nat
  id : String
  deriving DecidableEq, Repr

namespace Delivery

/-- What the recording sink with a given number has received. -/
def received (slot : Nat) (ds : List Delivery) : List String :=
  (ds.filter (·.slot == slot)).map Delivery.id

@[simp] theorem received_nil (slot : Nat) : received slot [] = [] := rfl

@[simp] theorem received_append (slot : Nat) (ds es : List Delivery) :
    received slot (ds ++ es) = received slot ds ++ received slot es := by
  simp [received]

end Delivery

end RemoteScreen
