import RemoteScreen.Document.Value
import RemoteScreen.Image.Region
import RemoteScreen.Renderable.Basic

/-! Renderables and their image regions as JSON documents. -/
namespace RemoteScreen

namespace Region

def toDocument {ι : Type} (r : Region ι) : Json :=
  .object [("url", .text r.url), ("state", .text r.state.name), ("image", r.image.toDocument),
    ("terminal", .bool r.isTerminal)]

end Region

namespace Renderable

variable {ι : Type} (regions : List (Region ι))

def head (r : Renderable) : List (String × Json) := [("kind", .text r.kind), ("id", .text r.id)]

mutual

/-- A tree, with the regions of its cards. -/
def toDocument : Renderable → Json
  | r@(card _ title body region) => .object (r.head ++ [("title", .text title), ("body", .text body),
      ("image", .optional Region.toDocument regions[region]?)])
  | r@(stat _ label value maxLines) => .object (r.head ++ [("label", .text label),
      ("value", .text value), ("max_lines", .int maxLines)])
  | r@(action _ title sink) => .object (r.head ++ [("title", .text title),
      ("has_sink", .bool sink.isSome)])
  | r@(unknown _ typeTag message) => .object (r.head ++ [("type_tag", .text typeTag),
      ("message", .text message)])
  | r@(carousel _ title pages height) => .object (r.head ++ [("title", .text title),
      ("height", .int height), ("page_count", .int pages.length), ("pages", .list (documents pages))])
  | r@(hscroll _ title slots spacing) => .object (r.head ++ [("title", .text title),
      ("spacing", .int spacing), ("content_width", .int (contentWidth spacing slots)),
      ("slots", .list (slotDocuments slots))])
  | r@(plain _) => .object r.head

def documents : List Renderable → List Json
  | [] => []
  | r :: rs => toDocument r :: documents rs

def slotDocuments : List (Slot Renderable) → List Json
  | [] => []
  | ⟨width, r⟩ :: slots =>
    .object [("width", .int width), ("content", toDocument r)] :: slotDocuments slots

end

/-- The kinds and ids of a forest in pre-order. -/
def walkDocument (rs : List Renderable) : Json :=
  .list ((walkList rs).map fun r => .list [.text r.kind, .text r.id])

end Renderable
end RemoteScreen
