import RemoteScreen.Action.Sink
import RemoteScreen.Failure
import RemoteScreen.Fetch.Network
import RemoteScreen.Image.Loader
import RemoteScreen.Image.Region
import RemoteScreen.Journal
import RemoteScreen.Telemetry.Basic

/-! A session: everything the parts of the program share while it runs, and the steps that change
it. A step that fails keeps what it did before. `υ` is the state of what is on screen, if anything
is. -/
namespace RemoteScreen

/-- An image that was asked for. -/
structure ImageRequest where
  region : Nat
  url : String
  pass : Option Pass
  deriving DecidableEq, Repr

structure Session (υ : Type) where
  journal : Journal := {}
  telemetry : Telemetry := {}
  deliveries : List Delivery := []
  regions : List (Region Nat) := []
  requests : List ImageRequest := []
  tracker : PassTracker := {}
  loader : Option Loader := none
  network : Network := {}
  ui : υ

abbrev Act (υ : Type) := ExceptT Failure (StateM (Session υ))

namespace Session

variable {υ α : Type}

def fail (e : Failure) : Act υ α := throw e

/-- Runs a step and gives its outcome as a value. -/
def attempt (body : Act υ α) : Act υ (Except Failure α) :=
  ExceptT.mk do
    let r ← body.run
    pure (.ok r)

def log (severity : Severity) (part message : String) : Act υ Unit :=
  modify fun s => { s with journal := s.journal.write ⟨severity, partLogger part, message⟩ }

def beginPass : Act υ Pass := do
  let t := (← get).tracker
  modify fun s => { s with tracker := t.advance }
  pure t.next

end Session
end RemoteScreen
