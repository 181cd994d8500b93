import RemoteScreen.Session.Basic

/-! The image regions of a session, numbered in order of creation. -/
namespace RemoteScreen
namespace Session

variable {υ α : Type}

/-- Tells listener `l` of region `n` that the region has come to its end. -/
abbrev Tell (υ : Type) := (n l : Nat) → Act υ Unit

/-- For regions that nobody listens to. -/
def tellNobody : Tell υ := fun _ _ => pure ()

def addRegion (url : String) : Act υ Nat := do
  let n := (← get).regions.length
  modify fun s => { s with regions := s.regions ++ [{ url }] }
  pure n

def region? (n : Nat) : Act υ (Option (Region Nat)) := do
  pure (← get).regions[n]?

def setRegion (n : Nat) (r : Region Nat) : Act υ Unit :=
  modify fun s => { s with regions := s.regions.set n r }

def subscribe (n l : Nat) : Act υ Unit :=
  modify fun s => { s with regions := s.regions.modify n fun r => r.subscribe l }

def unsubscribe (n l : Nat) : Act υ Unit :=
  modify fun s => { s with regions := s.regions.modify n fun r => r.unsubscribe l }

/-- Brings region `n` to an end, unless it has come to one before, and tells the listeners it has at
that moment. -/
def settle (tell : Tell υ) (n : Nat) (change : Region Nat → Option (Region Nat)) :
    Act υ Bool := do
  match (← region? n).bind change with
  | none => pure false
  | some r =>
    setRegion n r
    r.listeners.forM (tell n)
    pure true

def resolve (tell : Tell υ) (n : Nat) (image : Value) : Act υ Bool :=
  settle tell n fun r => r.resolve? image

def failRegion (tell : Tell υ) (n : Nat) : Act υ Bool := settle tell n Region.fail?

end Session
end RemoteScreen
