import RemoteScreen.View.Mounting

/-! The life of a mounted view: layout, taking in other views, and the end. -/
namespace RemoteScreen
namespace Session

/-- Packs a mounted view and those it owns; a row fits its scroll region when there is time. -/
def layoutDeep : (fuel : Nat) → (v : Nat) → Act Ui Unit
  | 0, _ => pure ()
  | fuel + 1, v => do
    match ← view? v with
    | some x =>
      match x.root with
      | some root => do
        pack root x.packing
        x.components.forM (layoutDeep fuel)
        if x.kind = .hscroll then whenIdle root (.measure v)
      | none => pure ()
    | none => pure ()

def layout (v : Nat) : Act Ui Unit := do layoutDeep (← depth) v

/-- Takes a view in as the last one; a mounted view mounts it at once. -/
def addComponent (v child : Nat) : Act Ui Unit := do
  updateView v fun x => { x with components := x.components ++ [child] }
  if ((← view? v).map View.isMounted) == some true then
    mount child (← childParent v)
    layout child

/-- What ends with a view besides its widget and the views it owns: a card stops listening, and a
screen stops looking for images. -/
def retire (v : Nat) (x : View) : Act Ui Unit := do
  match x.kind with
  | .card =>
    match x.region? with
    | some n => unsubscribe n v
    | none => pure ()
  | .screen =>
    match (← theUi).screen.pollAlarm, x.root with
    | some n, some _ => updateKit fun k => k.cancel n
    | _, _ => pure ()
    updateUi fun u => { u with screen := { u.screen with pollAlarm := none } }
  | _ => pure ()
  updateView v fun x => { x with parts := .none }

def destroyWidget (w : Nat) : Act Ui Unit := updateKit fun k => k.destroy w

/-- Destroys the views that a view owns, and then its own widget. -/
def destroyDeep : (fuel : Nat) → (v : Nat) → Act Ui Unit
  | 0, _ => pure ()
  | fuel + 1, v => do
    match ← view? v with
    | none => pure ()
    | some x =>
      retire v x
      x.components.forM (destroyDeep fuel)
      updateView v fun x => { x with components := [] }
      match x.root with
      | some root => do
        destroyWidget root
        updateView v fun x => { x with root := none }
      | none => pure ()

def destroy (v : Nat) : Act Ui Unit := do destroyDeep (← depth) v

/-- Destroys the views that a view owns. -/
def clearComponents (v : Nat) : Act Ui Unit := do
  match ← view? v with
  | some x => do
    x.components.forM destroy
    updateView v fun x => { x with components := [] }
  | none => pure ()

/-! Pages -/

/-- Turns a carousel to a page, or to the nearest one there is. -/
def showPage (v : Nat) (index : Int) : Act Ui Unit := do
  match ← view? v with
  | none => pure ()
  | some x =>
    let i := (Renderable.clampPage x.pages.length index).toNat
    match x.pages[i]? with
    | none => pure ()
    | some r =>
      updateView v fun x => { x with index := i }
      clearComponents v
      let child ← viewOf r View.pagePacking
      addComponent v child
      syncNavigation v

def turnPage (v : Nat) (forward : Bool) : Act Ui Unit := do
  match ← view? v with
  | some x => showPage v (if forward then x.index + 1 else x.index - 1)
  | none => pure ()

/-! Rows -/

/-- The scroll region of a row spans its slots, and the canvas is as high as the highest of them. -/
def measure (v : Nat) : Act Ui Unit := do
  match ← view? v with
  | some x =>
    match x.parts, x.renderable with
    | .hscroll canvas _ holders, some (.hscroll _ _ slots spacing) => do
      let k ← theKit
      let height := (holders.map k.requestedHeight).foldl max 0
      configure canvas [("height", .int (max height 1)),
        ("scrollregion", .value (.list [.int 0, .int 0,
          .int (Renderable.contentWidth spacing slots), .int height]))]
    | _, _ => pure ()
  | none => pure ()

end Session
end RemoteScreen
