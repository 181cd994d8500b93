import RemoteScreen.Descriptor.Response
import RemoteScreen.Json.Basic

/-! The wire form of a response, read off a JSON value. Reading is all or nothing and never
coerces; keys without a meaning are passed over. -/
namespace RemoteScreen
namespace Payload

open Json (lastValue? mergeEntries)

/-- The deepest chain of nested descriptors that is looked into. -/
def maxNesting : Nat := 254

def text? : Json → Option String
  | .text s => some s
  | _ => none

def field? (key : String) (es : List (String × Json)) : Option Json := lastValue? key es

def textField? (key : String) (es : List (String × Json)) : Option String :=
  (field? key es).bind text?

def property? (e : String × Json) : Option (String × Option String) :=
  (text? e.2).map fun s => (e.1, some s)

def properties? : Json → Option Properties
  | .object es => (es.mapM property?).map mergeEntries
  | _ => none

/-- A descriptor that stands under at most `room - 1` further levels. -/
def descriptor? : (room : Nat) → Json → Option Descriptor
  | room + 1, .object es => do
    let id ← textField? "id" es
    let type ← textField? "type" es
    let properties ← (field? "properties" es).bind properties?
    let children ← match field? "children" es with
      | none => some none
      | some .null => some none
      | some (.list items) => (items.mapM (descriptor? room)).map some
      | some _ => none
    some ⟨id, type, properties, children⟩
  | _, _ => none

def components? : Json → Option (List Descriptor)
  | .object es =>
    match field? "components" es with
    | some (.list items) => items.mapM (descriptor? maxNesting)
    | _ => none
  | _ => none

end Payload
end RemoteScreen
