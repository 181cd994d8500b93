import RemoteScreen.Descriptor.Basic
import RemoteScreen.Render.Context
import RemoteScreen.Session.Images
import RemoteScreen.Text.Blank
import RemoteScreen.Text.Line

/-! Strategies: how a descriptor of one type becomes a renderable. Leaves never look at children;
containers have theirs rendered in a narrower context. -/
namespace RemoteScreen

/-- What a strategy does when it does not give up. -/
inductive Manner where
  | placeholder
  | card
  | stat
  | action (defaultTitle : String)
  | carousel (childTypes : List String) (height : Int)
  | hscroll (childTypes : List String) (widths : List (String × Int))
      (defaultWidth unknownWidth : Int)
  /-- A container of no particular kind, which cannot render anything. -/
  | bare

/-- A strategy may give up on some descriptors before it does anything. -/
structure Strategy where
  manner : Manner
  fault : Descriptor → Option Failure := fun _ => none

namespace Strategy

def cardTag : String := "planetCard"
def statTag : String := "galaxyStats"
def actionTag : String := "exploreButton"
def carouselTag : String := "carousel"
def hscrollTag : String := "hscroll"

def builtinTags : List String := [cardTag, statTag, actionTag, carouselTag, hscrollTag]

/-- What containers hold. Buttons become placeholders there. -/
def containerTypes : List String := [cardTag, statTag, carouselTag, hscrollTag]

def defaultTitle : String := "Explore"
def defaultHeight : Int := 300
def slotWidths : List (String × Int) := [(cardTag, 250), (statTag, 200)]
def defaultWidth : Int := 250
def unknownWidth : Int := 200

def placeholder : Strategy := ⟨.placeholder, fun _ => none⟩
def card : Strategy := ⟨.card, fun _ => none⟩
def stat : Strategy := ⟨.stat, fun _ => none⟩
def action : Strategy := ⟨.action defaultTitle, fun _ => none⟩
def carousel : Strategy := ⟨.carousel containerTypes defaultHeight, fun _ => none⟩
def hscroll : Strategy :=
  ⟨.hscroll containerTypes slotWidths defaultWidth unknownWidth, fun _ => none⟩

/-- Gives up on everything. -/
def broken (message : String) : Strategy := ⟨.placeholder, fun _ => some (.strategy message)⟩

def carouselMessage : String := "Unknown carousel item"
def hscrollMessage : String := "Unknown hscroll item"

end Strategy

/-- The built-in tags with the strategies that serve them. -/
def Registry.default : Registry Strategy where
  fallback := .placeholder
  entries := [(Strategy.cardTag, .card), (Strategy.statTag, .stat), (Strategy.actionTag, .action),
    (Strategy.carouselTag, .carousel), (Strategy.hscrollTag, .hscroll)]

namespace Session

variable {υ : Type}

/-- Asks for the image of a region that was just made; nobody listens to it yet. -/
def askForImage (images : ImageSource) (n : Nat) (url : String) (pass : Option Pass) :
    Act υ Unit :=
  match images with
  | .none => pure ()
  | .recorder refused =>
    if refused.contains url then fail (.imageRefused url)
    else noteRequest ⟨n, url, pass⟩
  | .loader => requestImage tellNobody n pass

/-- The region of a card. Without a URL it fails at once. -/
def cardRegion (c : Context) (url : String) : Act υ Nat := do
  let n ← addRegion url
  if url = "" then
    let _ ← failRegion tellNobody n
  else askForImage c.images n url c.pass
  pure n

end Session

namespace Strategy

variable {υ : Type}

def imageUrl (d : Descriptor) : String := Text.strip (d.prop "imageUrl")

/-- The width of the slot that shows a child. -/
def slotWidth (widths : List (String × Int)) (defaultWidth unknownWidth : Int) (child : Descriptor)
    (shown : Renderable) : Int :=
  if shown.isUnknown then unknownWidth else (widths.lookup child.type).getD defaultWidth

def slots (widths : List (String × Int)) (defaultWidth unknownWidth : Int)
    (children : List Descriptor) (shown : List Renderable) : List (Slot Renderable) :=
  (children.zip shown).map fun (d, r) => ⟨slotWidth widths defaultWidth unknownWidth d r, r⟩

/-- Renders one descriptor; `children` renders its children in a given context. -/
def render (s : Strategy) (d : Descriptor) (c : Context)
    (children : Context → Act υ (List Renderable)) : Act υ Renderable := do
  match s.fault d with
  | some e => Session.fail e
  | none =>
    match s.manner with
    | .placeholder => pure (.unknown d.id d.type c.message)
    | .card => do
      let n ← Session.cardRegion c (imageUrl d)
      pure (.card d.id (d.prop "name") (d.prop "description") n)
    | .stat => pure (.stat d.id (d.prop "statName") (Text.firstLine (d.prop "value")) 1)
    | .action defaultTitle => pure (.action d.id (d.prop "title" defaultTitle) (some c.actions))
    | .carousel types height => do
      let pages ← children (c.within types carouselMessage)
      pure (.carousel d.id (d.prop "title") pages height)
    | .hscroll types widths defaultWidth unknownWidth => do
      let shown ← children (c.within types hscrollMessage)
      pure (.hscroll d.id (d.prop "title")
        (slots widths defaultWidth unknownWidth d.childList shown) Renderable.slotSpacing)
    | .bare => Session.fail .noRendering

end Strategy
end RemoteScreen
