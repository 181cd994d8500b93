import RemoteScreen.Image.Region

/-! One region watched by listeners that may change its listeners, or ask for another end, while
they are being told. -/
namespace RemoteScreen

inductive RegionCall (ι : Type) where
  | subscribe (l : ι)
  | unsubscribe (l : ι)
  | resolve (image : Value)
  | fail

/-- What a listener does when it is told: some calls, and then perhaps it raises. -/
structure Reaction (ι : Type) where
  calls : List (RegionCall ι) := []
  raises : Bool := false

inductive Heard (ι : Type) where
  | told (l : ι) (state : ImageState) (image : Value)
  | answered (l : ι) (answer : Bool)

structure Watch (ι : Type) where
  region : Region ι
  heard : List (Heard ι) := []

/-- The listener that raised. -/
structure Raised (ι : Type) where
  listener : ι

namespace Watch

variable {ι : Type} [BEq ι]

def note (w : Watch ι) (h : Heard ι) : Watch ι := { w with heard := w.heard ++ [h] }

/-- A call made by a listener that is being told. The region is terminal then, so it has its end and
refuses another. -/
def nested (l : ι) (w : Watch ι) : RegionCall ι → Watch ι
  | .subscribe m => { w with region := w.region.subscribe m }
  | .unsubscribe m => { w with region := w.region.unsubscribe m }
  | .resolve _ => w.note (.answered l false)
  | .fail => w.note (.answered l false)

/-- Tells the listeners one after the other; the first that raises ends it. -/
def tell (react : ι → Reaction ι) : List ι → Watch ι → Watch ι × Option (Raised ι)
  | [], w => (w, none)
  | l :: ls, w =>
    let w := w.note (.told l w.region.state w.region.image)
    let w := (react l).calls.foldl (nested l) w
    if (react l).raises then (w, some ⟨l⟩) else tell react ls w

/-- Ends the wait if it has not ended; the listeners of that moment are told. -/
def settle (react : ι → Reaction ι) (w : Watch ι) : Option (Region ι) →
    Watch ι × Except (Raised ι) (Option Bool)
  | none => (w, .ok (some false))
  | some r =>
    match tell react r.listeners { w with region := r } with
    | (w, none) => (w, .ok (some true))
    | (w, some raised) => (w, .error raised)

def call (react : ι → Reaction ι) (w : Watch ι) : RegionCall ι →
    Watch ι × Except (Raised ι) (Option Bool)
  | .subscribe l => ({ w with region := w.region.subscribe l }, .ok none)
  | .unsubscribe l => ({ w with region := w.region.unsubscribe l }, .ok none)
  | .resolve image => w.settle react (w.region.resolve? image)
  | .fail => w.settle react w.region.fail?

end Watch
end RemoteScreen
