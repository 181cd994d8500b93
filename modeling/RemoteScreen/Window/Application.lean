import RemoteScreen.Fetch.Images
import RemoteScreen.View.Screen
import RemoteScreen.Window.Theme

/-! The application: its window, the fetches it runs in the background, and its end. -/
namespace RemoteScreen
namespace Session

/-- The application window. -/
def window : Nat := 0

def updateApplication (f : Application → Application) : Act Ui Unit :=
  updateUi fun u => { u with application := f u.application }

def application : Act Ui Application := do pure (← theUi).application

def logApplication (severity : Severity) (message : String) : Act Ui Unit :=
  modify fun s => { s with journal := s.journal.write ⟨severity, appLogger, message⟩ }

/-! The window -/

/-- A side of the window: what is asked for, within the display, and where that puts it. -/
def sideOf (asked : Option Int) (available : Int) : Int × Int :=
  let size := max 1 (min (asked.getD available) available)
  (size, max 0 (Int.fdiv (available - size) 2))

def geometry (width height : Option Int) (display : Int × Int) : String :=
  let (w, x) := sideOf width display.1
  let (h, y) := sideOf height display.2
  s!"{w}x{h}+{x}+{y}"

def bind (w : Nat) (event : String) (command : Command) : Act Ui Unit :=
  updateKit fun k => k.bind w event command

/-- The name of an event wherever in the window it happens. -/
def anywhere (event : String) : String := s!"all {event}"

def wheelEvents : List (String × Command) :=
  [("<MouseWheel>", .wheel), ("<Button-4>", .scroll (-1)), ("<Button-5>", .scroll 1)]

/-- Contents that scroll: a frame in a canvas beside a scrollbar. -/
def buildScrolled : Act Ui Nat := do
  let container ← place window .frame [("style", .text "Screen.TFrame")] View.pagePacking
  let canvas ← create container .canvas
    [("highlightthickness", .int 0), ("background", .text Style.background)]
  let bar ← create container .scrollbar
    [("orient", .text "vertical"), ("command", .command (.follow canvas))]
  let contents ← create canvas .frame [("style", .text "Screen.TFrame")]
  bind contents "<Configure>" .fitContents
  let _ ← addItem canvas ⟨0, 0, [("window", .widget contents), ("anchor", .text "nw")]⟩
  bind canvas "<Configure>" .fitWidth
  configure canvas [("yscrollcommand", .command (.follow bar))]
  pack canvas [("side", .text "left"), ("fill", .text "both"), ("expand", .bool true)]
  pack bar [("side", .text "right"), ("fill", .text "y")]
  updateApplication fun a => { a with canvas := some canvas }
  wheelEvents.forM fun e => bind window (anywhere e.1) e.2
  pure contents

def buildContents (scrollable : Bool) : Act Ui Nat :=
  if scrollable then buildScrolled
  else place window .frame [("style", .text "Screen.TFrame")] View.pagePacking

/-- What an application can be given when it is made. Services that it is not given it makes from
its settings. -/
structure Opening where
  width : Option Int := some 420
  height : Option Int := some 860
  title : String := ""
  settings : Settings := {}
  fetcher : Option Fetcher := none
  loader : Option Loader := none

/-- The loader of the window: the one that is given, or one made from the settings. -/
def Opening.theLoader (o : Opening) : Except Failure Loader :=
  match o.loader with
  | some l => .ok l
  | none => Loader.ofSettings o.settings Loader.missing .tracked true

/-- The fetcher of the window: the one that is given, or one made from the settings. -/
def Opening.theFetcher (o : Opening) : Except Failure Fetcher :=
  match o.fetcher with
  | some f => .ok f
  | none => Fetcher.ofSettings o.settings true

def defaultTitle : String := "Server Driven UI"

/-- What actions in the window report to. -/
def windowActions : Sink := .fanout [.journal, .telemetry none]

/-- Opens the window with an empty screen. -/
def openApplication (o : Opening) : Act Ui Unit := do
  let title := if o.title = "" then defaultTitle else o.title
  applyTheme (o.settings.get "theme")
  configure window [("background", .text Style.background)]
  let extent := geometry o.width o.height (← theKit).display
  let contents ← buildContents (o.settings.get "scrollable" (.bool true)).truth
  let loader ← ofExcept o.theLoader
  let fetcher ← ofExcept o.theFetcher
  modify fun s => { s with loader := some loader }
  let pollMs ← ofExcept (((o.settings.get "poll_ms" (.int 50)).toInt).mapError .value)
  makeScreen "screen" pollMs { actions := windowActions, images := .loader }
  updateApplication fun a => { a with title, geometry := extent, fetcher, contents }
  let screen := (← theUi).screen.view
  mount screen contents
  layout screen
  bind window "<F5>" .reload
  bind window "protocol WM_DELETE_WINDOW" .close

/-! Fetching in the background -/

/-- Milliseconds between two looks for the result of a fetch. -/
def collectMs : Int := 50

/-- Starts a fetch, unless one is under way. -/
def reload : Act Ui Unit := do
  if (← application).loading then pure ()
  else
    updateApplication fun a => { a with loading := true }
    emitEvent (← processChannel) ⟨"app.reload", []⟩
    updateApplication fun a => { a with workers := a.workers + 1 }
    let _ ← after window collectMs .collect

/-- Lets a started fetch run to its end, if there is one, and tells whether there was. -/
def runWorker : Act Ui Bool := do
  let a ← application
  if a.workers = 0 then pure false
  else
    updateApplication fun a => { a with workers := a.workers - 1 }
    let result ← fetch a.fetcher
    updateApplication fun a => { a with results := a.results ++ [result] }
    pure true

/-- Shows what a fetch gave. -/
def applyResult (result : FetchResult) : Act Ui Unit := do
  updateApplication fun a => { a with last := some result }
  match result.error with
  | some why => logApplication .info s!"Showing fallback components: {why}"
  | none => pure ()
  let _ ← showResponse result.response

/-- Shows the result of a fetch if it is there, and looks again later if not. -/
def collect : Act Ui Unit := do
  match (← application).results with
  | [] =>
    let _ ← after window collectMs .collect
  | result :: results =>
    updateApplication fun a => { a with results, loading := false }
    applyResult result

/-- Opens no more images, closes the client and destroys the window. -/
def close : Act Ui Unit := do
  shutdownLoader
  updateApplication fun a => { a with fetcher := a.fetcher.close }
  destroyWidget window

/-! Events -/

/-- What an event tells. -/
structure Happening where
  delta : Int := 0
  width : Int := 0

def onCanvas (f : Nat → Act Ui Unit) : Act Ui Unit := do
  match (← application).canvas with
  | some c => f c
  | none => pure ()

def scroll (units : Int) : Act Ui Unit :=
  updateKit fun k => { k with scrolls := k.scrolls ++ [(units, "units")] }

/-- The scroll region takes in everything in the canvas. -/
def fitContents : Act Ui Unit := onCanvas fun c => do
  let box := (← theKit).contents
  configure c [("scrollregion", .value (.list (box.map .int)))]

/-- The contents are as wide as the canvas. -/
def fitWidth (width : Int) : Act Ui Unit := onCanvas fun c =>
  updateKit fun k => k.configureItem c 1 [("width", .int width)]

/-- Notches of a mouse wheel, against its direction. -/
def wheel (delta : Int) : Act Ui Unit :=
  if delta = 0 then pure () else scroll (Int.tdiv (-delta) 120)

def perform (e : Happening) : Command → Act Ui Unit
  | .turn view forward => turnPage view forward
  | .activate r => activateRenderable r
  | .follow _ => pure ()
  | .measure view => measure view
  | .poll => poll
  | .collect => collect
  | .reload => reload
  | .close => close
  | .fitContents => fitContents
  | .fitWidth => fitWidth e.width
  | .wheel => wheel e.delta
  | .scroll units => scroll units

/-- What an event of a widget is bound to: by the widget itself, or else wherever it happens. -/
def bound? (k : Toolkit Command) (w : Nat) (event : String) : Option Command :=
  ((k.widget? w).bind fun x => x.bindings.lookup event).or
    ((k.widget? window).bind fun x => x.bindings.lookup (anywhere event))

/-- Calls what is bound to an event of a widget, if anything is, and tells whether something was. -/
def trigger (w : Nat) (event : String) (e : Happening) : Act Ui Bool := do
  match bound? (← theKit) w event with
  | some c => do
    perform e c
    pure true
  | none => pure false

/-- Presses a button; a disabled one does nothing. -/
def press (w : Nat) : Act Ui Unit := do
  match ((← theKit).widget? w).bind Widget.command? with
  | some c => perform {} c
  | none => pure ()

/-! Time -/

def runErrandsUpTo : (fuel : Nat) → Act Ui Unit
  | 0 => pure ()
  | fuel + 1 => do
    match (← theKit).takeErrand? with
    | some (k, c) => do
      updateKit fun _ => k
      perform {} c
      runErrandsUpTo fuel
    | none => pure ()

/-- Runs what waits for idle time. -/
def runErrands : Act Ui Unit := do runErrandsUpTo (← theKit).errands.length

def runAlarms (limit : Int) : (fuel : Nat) → Act Ui Unit
  | 0 => pure ()
  | fuel + 1 => do
    match (← theKit).takeAlarm? limit with
    | some (k, c) => do
      updateKit fun _ => k
      perform {} c
      runErrands
      runAlarms limit fuel
    | none => pure ()

/-- Lets time pass. What waits for idle time goes first; then each alarm goes off at its time. An
alarm sets at most one other, and as long as that is a millisecond later or more, no more than one
for each millisecond can follow. -/
def tick (ms : Nat) : Act Ui Unit := do
  runErrands
  let k ← theKit
  let limit := k.now + ms
  runAlarms limit (k.alarms.length * (ms + 1) + 1)
  updateKit fun k => { k with now := limit }

end Session
end RemoteScreen
