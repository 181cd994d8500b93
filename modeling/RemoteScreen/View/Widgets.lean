import RemoteScreen.View.Basic

/-! Steps on the widgets and the views of a session. -/
namespace RemoteScreen
namespace Session

variable {α : Type}

def theUi : Act Ui Ui := do pure (← get).ui

def theKit : Act Ui (Toolkit Command) := do pure (← theUi).kit

def updateUi (f : Ui → Ui) : Act Ui Unit := modify fun s => { s with ui := f s.ui }

def updateKit (f : Toolkit Command → Toolkit Command) : Act Ui Unit :=
  updateUi fun u => { u with kit := f u.kit }

/-- A step of the toolkit that destroyed widgets refuse. -/
def onKit (f : Toolkit Command → Option (Toolkit Command × α)) : Act Ui α := do
  match f (← theKit) with
  | some (k, x) =>
    updateKit fun _ => k
    pure x
  | none => fail .destroyedWidget

def create (parent : Nat) (kind : WidgetKind) (aspects : Aspects Command) : Act Ui Nat :=
  onKit fun k => k.create? parent kind aspects

def configure (w : Nat) (aspects : Aspects Command) : Act Ui Unit :=
  onKit fun k => (k.configure? w aspects).map (·, ())

def pack (w : Nat) (packing : Attributes) : Act Ui Unit :=
  onKit fun k => (k.pack? w (Aspects.ofValues packing)).map (·, ())

/-- Makes a widget and packs it. -/
def place (parent : Nat) (kind : WidgetKind) (aspects : Aspects Command) (packing : Attributes) :
    Act Ui Nat := do
  let w ← create parent kind aspects
  pack w packing
  pure w

def setDisabled (w : Nat) (on : Bool) : Act Ui Unit :=
  updateKit fun k => k.update w fun x => x.setDisabled on

def addItem (canvas : Nat) (item : CanvasItem Command) : Act Ui Nat :=
  onKit fun k => some (k.addItem canvas item)

def after (owner : Nat) (delay : Int) (command : Command) : Act Ui Nat :=
  onKit fun k => k.after? owner delay command

def whenIdle (owner : Nat) (command : Command) : Act Ui Unit :=
  onKit fun k => (k.whenIdle? owner command).map (·, ())

/-! Views -/

def view? (v : Nat) : Act Ui (Option View) := do pure (← theUi).views[v]?

def updateView (v : Nat) (f : View → View) : Act Ui Unit :=
  updateUi fun u => { u with views := u.views.modify v f }

def addView (view : View) : Act Ui Nat := do
  let n := (← theUi).views.length
  updateUi fun u => { u with views := u.views ++ [view] }
  pure n

/-- An id for a view that has none. -/
def nameView (id : String) : Act Ui String := do
  if id ≠ "" then pure id
  else
    let n := (← theUi).named + 1
    updateUi fun u => { u with named := n }
    pure s!"uuid-{n}"

/-- Makes a view that is not mounted. Without a name it goes by its kind. -/
def makeView (kind : ViewKind) (id name : String) (renderable : Option Renderable)
    (packing : Attributes) : Act Ui Nat := do
  let id ← nameView id
  addView { kind, id, name := if name = "" then kind.name else name, renderable, packing }

/-- Makes the view of a renderable. -/
def viewOf (r : Renderable) (packing : Attributes) : Act Ui Nat :=
  makeView (.ofRenderable r) r.id "" (some r.visible) packing

end Session
end RemoteScreen
