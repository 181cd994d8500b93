import RemoteScreen.View.Image

/-! Mounting: building the widgets of views. A view is mounted once its widget stands, and then the
views it owns are mounted in it. -/
namespace RemoteScreen
namespace Session

def setRoot (v w : Nat) : Act Ui Unit := updateView v fun x => { x with root := some w }

/-- A heading, where there is one. -/
def heading (parent : Nat) (title : String) : Act Ui Unit := do
  if title ≠ "" then
    let _ ← place parent .label [("text", .text title), ("style", .text "Section.TLabel")]
      [("anchor", .text "w")]

def buildCard (v : Nat) (title body : String) (region parent : Nat) : Act Ui Nat := do
  let frame ← create parent .frame [("style", .text "Card.TFrame"), ("padding", .int 5)]
  let label ← place frame .label [("style", .text "CardImage.TLabel")] [("pady", .int 5)]
  updateView v fun x => { x with parts := .card label }
  let _ ← place frame .label [("text", .text title), ("style", .text "CardTitle.TLabel")] []
  let _ ← place frame .label
    [("text", .text body), ("style", .text "CardBody.TLabel"), ("justify", .text "center"),
      ("wraplength", .int 320)]
    [("pady", .list [.int 0, .int 28])]
  showImage region v
  subscribe region v
  pure frame

def buildStat (label value : String) (parent : Nat) : Act Ui Nat := do
  let frame ← create parent .frame [("style", .text "Stat.TFrame"), ("padding", .int 15)]
  let _ ← place frame .label [("text", .text label), ("style", .text "StatName.TLabel")] []
  let _ ← place frame .label [("text", .text value), ("style", .text "StatValue.TLabel")] []
  pure frame

def buildAction (r : Renderable) (title : String) (parent : Nat) : Act Ui Nat :=
  create parent .button
    [("text", .text title), ("style", .text "Action.TButton"), ("command", .command (.activate r))]

def buildUnknown (message : String) (parent : Nat) : Act Ui Nat :=
  create parent .label
    [("text", .text message), ("style", .text "Unknown.TLabel"), ("anchor", .text "center")]

/-- Brings the label and the buttons of a carousel in line with its page. -/
def syncNavigation (v : Nat) : Act Ui Unit := do
  match ← view? v with
  | some x =>
    match x.parts with
    | .carousel _ previous label next => do
      configure label [("text", .text (Renderable.pageLabel x.pages.length x.index))]
      setDisabled previous (x.index == 0)
      setDisabled next (x.pages.length ≤ x.index + 1)
    | _ => pure ()
  | none => pure ()

/-- The frame of a carousel, with an empty place for the page. -/
def buildCarousel (v : Nat) (title : String) (height : Int) (parent : Nat) :
    Act Ui (Nat × Nat) := do
  let frame ← create parent .frame [("style", .text "Screen.TFrame")]
  heading frame title
  let host ← place frame .frame [("style", .text "Screen.TFrame"), ("height", .int height)]
    View.pagePacking
  updateKit fun k => k.update host fun x => { x with propagate := some false }
  let nav ← place frame .frame [("style", .text "Screen.TFrame")]
    [("pady", .list [.int 4, .int 0])]
  let previous ← place nav .button
    [("text", .text "‹"), ("width", .int 3), ("command", .command (.turn v false))]
    [("side", .text "left")]
  let label ← place nav .label [("style", .text "Section.TLabel")]
    [("side", .text "left"), ("padx", .int 8)]
  let next ← place nav .button
    [("text", .text "›"), ("width", .int 3), ("command", .command (.turn v true))]
    [("side", .text "left")]
  updateView v fun x => { x with parts := .carousel host previous label next, components := [] }
  pure (frame, host)

/-- The frame of a row, with an empty canvas. -/
def buildRow (v : Nat) (title : String) (parent : Nat) : Act Ui (Nat × Nat) := do
  let frame ← create parent .frame [("style", .text "Screen.TFrame")]
  heading frame title
  let canvas ← create frame .canvas
    [("background", .text Style.background), ("highlightthickness", .int 0), ("height", .int 1)]
  let bar ← create frame .scrollbar
    [("orient", .text "horizontal"), ("command", .command (.follow canvas))]
  configure canvas [("xscrollcommand", .command (.follow bar))]
  pack canvas [("side", .text "top"), ("fill", .text "x"), ("expand", .bool true)]
  pack bar [("side", .text "top"), ("fill", .text "x")]
  updateView v fun x => { x with parts := .hscroll canvas [] [], components := [] }
  pure (frame, canvas)

/-- Makes a place for a slot in the canvas of a row, at `x`, with an unmounted view for it. -/
def addHolder (canvas : Nat) (r : Renderable) : Act Ui (Nat × Nat) := do
  let holder ← create canvas .frame [("style", .text "Screen.TFrame")]
  let child ← viewOf r View.pagePacking
  pure (holder, child)

/-- Takes a mounted slot into a row. -/
def addSlot (v canvas holder child : Nat) (x width : Int) : Act Ui Unit := do
  updateView v fun y => { y with components := y.components ++ [child] }
  let item ← addItem canvas ⟨x, 0, [("window", .widget holder), ("anchor", .text "nw"),
    ("width", .int width)]⟩
  updateView v fun y => { y with parts :=
    match y.parts with
    | .hscroll canvas windows holders => .hscroll canvas (windows ++ [item]) (holders ++ [holder])
    | p => p }

mutual

/-- Mounts view `v` of a renderable in a widget. -/
def mountShown : Renderable → (v parent : Nat) → Act Ui Unit
  | .card _ title body region, v, parent => do
    setRoot v (← buildCard v title body region parent)
  | .stat _ label value _, v, parent => do setRoot v (← buildStat label value parent)
  | .action id title sink, v, parent => do
    setRoot v (← buildAction (.action id title sink) title parent)
  | .unknown _ _ message, v, parent => do setRoot v (← buildUnknown message parent)
  | .plain _, v, parent => do setRoot v (← buildUnknown Renderable.unknownMessage parent)
  | .carousel _ title pages height, v, parent => do
    let (frame, host) ← buildCarousel v title height parent
    mountFirst pages v frame host
  | .hscroll _ title slots spacing, v, parent => do
    let (frame, canvas) ← buildRow v title parent
    mountSlots slots v canvas spacing 0
    setRoot v frame

/-- Mounts the first page of a carousel, if there is one. -/
def mountFirst : List Renderable → (v frame host : Nat) → Act Ui Unit
  | [], v, frame, _ => do
    syncNavigation v
    setRoot v frame
  | r :: _, v, frame, host => do
    let child ← viewOf r View.pagePacking
    updateView v fun x => { x with components := [child] }
    syncNavigation v
    setRoot v frame
    mountShown r child host

/-- Mounts the slots of a row from left to right. -/
def mountSlots : List (Slot Renderable) → (v canvas : Nat) → (spacing x : Int) → Act Ui Unit
  | [], _, _, _, _ => pure ()
  | ⟨width, r⟩ :: slots, v, canvas, spacing, x => do
    let (holder, child) ← addHolder canvas r
    mountShown r child holder
    addSlot v canvas holder child x width
    mountSlots slots v canvas spacing (x + width + spacing)

end

/-- What a view shows; a card without a renderable has a region of its own each time. -/
def shownBy (x : View) : Act Ui Renderable :=
  match x.renderable with
  | some r => pure r
  | none => do
    let region ← if x.kind = .card then addRegion "" else pure 0
    pure (View.placeholder x.kind x.id region)

/-- Looks for images again after a while, where there is a loader. -/
def schedulePoll (w : Nat) : Act Ui Unit := do
  if (← get).loader.isSome then
    let n ← after w (← theUi).screen.pollMs .poll
    updateUi fun u => { u with screen := { u.screen with pollAlarm := some n } }

/-- The widget of a view that only holds others. -/
def buildGroup (kind : ViewKind) (parent : Nat) : Act Ui Nat := do
  if kind = .screen then
    let frame ← create parent .frame
      [("style", .text "Screen.TFrame"), ("padding", .int Style.screenPadding)]
    schedulePoll frame
    pure frame
  else create parent .frame []

/-- Mounts a view, and what it owns as far as that is not mounted yet. -/
def mountDeep : (fuel : Nat) → (v parent : Nat) → Act Ui Unit
  | 0, _, _ => pure ()
  | fuel + 1, v, parent => do
    match ← view? v with
    | none => pure ()
    | some x =>
      if x.kind.isGroup then
        let root ← buildGroup x.kind parent
        setRoot v root
        for c in x.components do
          if ((← view? c).map View.isMounted) == some false then mountDeep fuel c root
      else mountShown (← shownBy x) v parent

/-- Views own each other at most as deep as there are views. -/
def depth : Act Ui Nat := do pure ((← theUi).views.length + 1)

def mount (v parent : Nat) : Act Ui Unit := do mountDeep (← depth) v parent

/-- The widget in which the views of a view are mounted. -/
def childParent (v : Nat) : Act Ui Nat := do
  match ← view? v with
  | none => fail (.notMounted "" "")
  | some x =>
    match x.childParent? with
    | some w => pure w
    | none => fail (.notMounted x.id x.name)

end Session
end RemoteScreen
