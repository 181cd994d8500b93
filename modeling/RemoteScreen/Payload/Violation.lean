import RemoteScreen.Payload.Schema

/-! What in a JSON value departs from the wire form, listed depth first: the fields of a
descriptor in the order id, type, properties, children, and entries and items as they stand. Nothing
is listed below a value that is itself at fault. -/
namespace RemoteScreen
namespace Payload

inductive Step where
  | field (name : String)
  | index (n : Nat)
  deriving DecidableEq, Repr

abbrev Path := List Step

inductive Defect where
  | missing
  | notText
  | notList
  | notProperties
  | notDescriptor
  | notResponse
  | tooDeep
  deriving DecidableEq, Repr

structure Violation where
  path : Path
  defect : Defect
  deriving DecidableEq, Repr

namespace Violation

/-- The same defect seen from one step further out. -/
def under (s : Step) (v : Violation) : Violation := { v with path := s :: v.path }

@[simp] theorem under_defect (s : Step) (v : Violation) : (v.under s).defect = v.defect := rfl

@[simp] theorem under_path (s : Step) (v : Violation) : (v.under s).path = s :: v.path := rfl

def here (d : Defect) : Violation := ⟨[], d⟩

end Violation

open Violation (here)

def ofText : Json → List Violation
  | .text _ => []
  | _ => [here .notText]

/-- The violations in a field that has to be there. -/
def ofField (es : List (String × Json)) (key : String) (check : Json → List Violation) :
    List Violation :=
  (match field? key es with
    | none => [here .missing]
    | some v => check v).map (.under (.field key))

def ofProperties : Json → List Violation
  | .object es => es.flatMap fun e => (ofText e.2).map (.under (.field e.1))
  | _ => [here .notProperties]

/-- The violations in the items of a list that begins at position `n`. -/
def ofItems (check : Json → List Violation) : Nat → List Json → List Violation
  | _, [] => []
  | n, v :: vs => (check v).map (.under (.index n)) ++ ofItems check (n + 1) vs

def ofChildren (check : Json → List Violation) : Option Json → List Violation
  | none => []
  | some .null => []
  | some (.list items) => ofItems check 0 items
  | some _ => [here .notList]

def ofDescriptor : (room : Nat) → Json → List Violation
  | 0, _ => [here .tooDeep]
  | room + 1, .object es =>
    ofField es "id" ofText ++ ofField es "type" ofText ++ ofField es "properties" ofProperties ++
      (ofChildren (ofDescriptor room) (field? "children" es)).map (.under (.field "children"))
  | _ + 1, _ => [here .notDescriptor]

def ofComponents : Json → List Violation
  | .list items => ofItems (ofDescriptor maxNesting) 0 items
  | _ => [here .notList]

def violations : Json → List Violation
  | .object es => ofField es "components" ofComponents
  | _ => [here .notResponse]

end Payload
end RemoteScreen
