import RemoteScreen.Value

/-! Image regions: a card's place for one image. A region waits until it is resolved or fails, once
and for all, and only then are its listeners told. -/
namespace RemoteScreen

inductive ImageState where
  | loading | loaded | failed
  deriving DecidableEq, Repr

def ImageState.name : ImageState → String
  | loading => "loading"
  | loaded => "loaded"
  | failed => "failed"

structure Region (ι : Type) where
  url : String
  state : ImageState := .loading
  image : Value := .null
  listeners : List ι := []

namespace Region

variable {ι : Type}

def isTerminal (r : Region ι) : Bool := r.state != .loading

def subscribe (r : Region ι) (l : ι) : Region ι := { r with listeners := r.listeners ++ [l] }

/-- Takes out the first entry of a listener, if there is one. -/
def unsubscribe [BEq ι] (r : Region ι) (l : ι) : Region ι :=
  { r with listeners := r.listeners.erase l }

/-- The region with its image, unless it is terminal already. -/
def resolve? (r : Region ι) (image : Value) : Option (Region ι) :=
  if r.isTerminal then none else some { r with state := .loaded, image := image }

/-- The region without an image for good, unless it is terminal already. -/
def fail? (r : Region ι) : Option (Region ι) :=
  if r.isTerminal then none else some { r with state := .failed }

@[simp] theorem listeners_subscribe (r : Region ι) (l : ι) :
    (r.subscribe l).listeners = r.listeners ++ [l] := rfl

@[simp] theorem listeners_unsubscribe [BEq ι] (r : Region ι) (l : ι) :
    (r.unsubscribe l).listeners = r.listeners.erase l := rfl

end Region
end RemoteScreen
