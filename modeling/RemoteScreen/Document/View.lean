import RemoteScreen.Document.Value
import RemoteScreen.View.Basic

/-! Widgets and views as JSON documents. -/
namespace RemoteScreen

namespace Aspect

variable {κ : Type}

def toDocument (k : Toolkit κ) : Aspect κ → Json
  | value v => v.toDocument
  | command _ => .text "<callback>"
  | widget w => .object [("widget", .optional (fun x => .text x.kind.name) (k.widget? w))]
  | photo image => .object [("photo", image.toDocument)]

end Aspect

namespace Toolkit

variable {κ : Type}

def aspectsDocument (k : Toolkit κ) (as : Aspects κ) : Json :=
  .object (as.map fun a => (a.1, a.2.toDocument k))

def itemDocument (k : Toolkit κ) (i : CanvasItem κ) : Json :=
  .list [.list [.int i.x, .int i.y], k.aspectsDocument i.aspects]

/-- An entry that stands only where there is something to say. -/
def rowAt? (key : String) (x : Json) (isEmpty : Bool) : List (String × Json) :=
  if isEmpty then [] else [(key, x)]

def sorted (ss : List String) : List String := ss.mergeSort fun a b => decide (a ≤ b)

/-- What is known of a widget besides its children. -/
def widgetEntries (k : Toolkit κ) (x : Widget κ) : List (String × Json) :=
  [("class", .text x.kind.name), ("options", k.aspectsDocument x.aspects),
    ("pack", .optional k.aspectsDocument x.packing)] ++
  rowAt? "propagate" (.optional .bool x.propagate) x.propagate.isNone ++
  rowAt? "states" (.texts (sorted x.states)) x.states.isEmpty ++
  rowAt? "items" (.list (x.items.map k.itemDocument)) x.items.isEmpty ++
  rowAt? "bindings" (.texts (sorted (x.bindings.map Prod.fst))) x.bindings.isEmpty

def documentDeep (k : Toolkit κ) : (fuel : Nat) → Nat → Json
  | 0, _ => .null
  | fuel + 1, w =>
    match k.widget? w with
    | some x => .object (k.widgetEntries x ++
        [("children", .list ((k.children w).map (documentDeep k fuel)))])
    | none => .null

/-- A widget and all in it. -/
def toDocument (k : Toolkit κ) (w : Nat) : Json := k.documentDeep k.widgets.length w

end Toolkit

namespace Session

/-- What is known of a view besides the views it owns. -/
def viewEntries (s : Session Ui) (v : View) : List (String × Json) :=
  [("class", .text v.kind.name), ("id", .text v.id), ("name", .text v.name),
    ("mounted", .bool v.isMounted), ("pack_options", v.packing.toDocument)] ++
  match v.kind with
  | .carousel => [("index", .int v.index)]
  | .hscroll =>
    [("slot_windows", .list (match v.parts with
      | .hscroll _ windows _ => windows.map fun (n : Nat) => .int n
      | _ => []))]
  | .card => (v.region?.bind fun n => s.regions[n]?).toList.map fun r =>
      ("listeners", .int r.listeners.length)
  | _ => []

def viewDocumentDeep (s : Session Ui) : (fuel : Nat) → Nat → Json
  | 0, _ => .null
  | fuel + 1, v =>
    match s.ui.views[v]? with
    | some x => .object (s.viewEntries x ++
        [("components", .list (x.components.map (viewDocumentDeep s fuel)))])
    | none => .null

/-- A view and the views it owns. -/
def viewDocument (s : Session Ui) (v : Nat) : Json := s.viewDocumentDeep s.ui.views.length v

end Session
end RemoteScreen
