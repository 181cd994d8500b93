import RemoteScreen.View.Lifecycle

/-! The screen: shows one response after the other as a stack of views, and applies the images that
arrive while it is mounted. -/
namespace RemoteScreen
namespace Session

/-- Makes a screen that is not mounted. -/
def makeScreen (id : String) (pollMs : Int) (renderer : Renderer) : Act Ui Unit := do
  let view ← makeView .screen id "" none View.pagePacking
  updateUi fun u => { u with screen := { view, pollMs, renderer } }

/-- Retrievals that nobody has started are of no use to the next response. -/
def dropQueuedImages : Act Ui Unit := do
  let n ← cancelPending
  if n ≠ 0 then log .debug "screen" s!"Cancelled {n} queued image loads"

/-- Puts a view for each renderable on the screen, in place of those before. -/
def replaceViews (rendered : List Renderable) : Act Ui Unit := do
  let screen := (← theUi).screen.view
  clearComponents screen
  for r in rendered do
    let child ← viewOf r View.stackPacking
    addComponent screen child

/-- Renders a response in a pass of its own and shows it. -/
def showResponse (response : Response) : Act Ui (List Renderable) := do
  dropQueuedImages
  let pass ← beginPass
  updateUi fun u => { u with screen := { u.screen with pass := some pass } }
  let rendered ← (← theUi).screen.renderer.renderResponse response (some pass)
  updateUi fun u => { u with screen := { u.screen with rendered, response := some response } }
  replaceViews rendered
  log .info "screen"
    s!"Showing {rendered.length} components (source={response.source}, pass={pass.version})"
  pure rendered

def drainImages : Act Ui Nat := drain tellView

/-- Applies the images that have arrived, and looks again after a while. -/
def poll : Act Ui Unit := do
  updateUi fun u => { u with screen := { u.screen with pollAlarm := none } }
  match (← view? (← theUi).screen.view).bind View.root with
  | some root => do
    let _ ← drainImages
    schedulePoll root
  | none => pure ()

end Session
end RemoteScreen
