import RemoteScreen.View.Widgets

/-! The picture of a card: what its label shows, by the state of the card's region. -/
namespace RemoteScreen

/-- What a label shows for a region: an image, a glyph where there is none to be had, and otherwise
that it is still loading. -/
def Region.look {ι : Type} (r : Region ι) : Aspects Command :=
  match r.state with
  | .loaded =>
    if r.image.isNull then [("image", .text ""), ("text", .text Style.loadingText)]
    else [("image", .photo r.image), ("text", .text "")]
  | .failed =>
    [("image", .text ""), ("text", .text Style.placeholderGlyph), ("font", .value Style.glyphFont)]
  | .loading => [("image", .text ""), ("text", .text Style.loadingText)]

namespace Session

/-- Shows the state of region `n` on the label of card view `v`, if it has one. -/
def showImage (n v : Nat) : Act Ui Unit := do
  match (← view? v).map View.parts, ← region? n with
  | some (.card label), some r => configure label r.look
  | _, _ => pure ()

/-- The listeners of regions are card views. -/
def tellView : Tell Ui := showImage

end Session
end RemoteScreen
