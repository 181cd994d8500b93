import RemoteScreen.Render.Strategy
import RemoteScreen.Text.Quoted

/-! Dispatch: the one way from a descriptor to a renderable, for roots and for children. What the
context does not accept is served by the fallback; a strategy that gives up costs only its node. -/
namespace RemoteScreen
namespace Render

open Session

variable {υ : Type}

/-- The message of the placeholder for a strategy that gave up. -/
def failedMessage : String := "Component failed to render"

/-- Runs a registered strategy; if it gives up, a placeholder takes the node's place. -/
def guarded (d : Descriptor) (body : Act υ Renderable) : Act υ Renderable := do
  match ← attempt body with
  | .ok r => pure r
  | .error _ =>
    log .error "render"
      s!"Renderer for type={Text.quote d.type} failed on id={d.id}; using fallback"
    pure (.unknown d.id d.type failedMessage)

def logFallback (d : Descriptor) (c : Context) : Act υ Unit :=
  log .debug "render" s!"Fallback render id={d.id} type={Text.quote d.type} depth={c.depth}"

/-- Serves a descriptor with the strategy for its type, or with the fallback where the context does
not accept it. What strategies are is left to `run`. -/
def serve {σ : Type} (reg : Registry σ) (d : Descriptor) (c : Context)
    (run : σ → Act υ Renderable) : Act υ Renderable :=
  match c.accepts reg d.type, reg.get? d.type with
  | true, some s => guarded d (run s)
  | _, _ => do
    logFallback d c
    run reg.fallback

/-- Renders a descriptor; `children` renders its children. -/
def dispatchWith (reg : Registry Strategy) (d : Descriptor) (c : Context)
    (children : Context → Act υ (List Renderable)) : Act υ Renderable :=
  serve reg d c fun s => s.render d c children

mutual

def dispatch (reg : Registry Strategy) : Descriptor → Context → Act υ Renderable
  | ⟨id, type, ps, cs⟩, c =>
    dispatchWith reg ⟨id, type, ps, cs⟩ c fun c => dispatchChildren reg cs c

def dispatchChildren (reg : Registry Strategy) :
    Option (List Descriptor) → Context → Act υ (List Renderable)
  | none, _ => pure []
  | some ds, c => dispatchList reg ds c

def dispatchList (reg : Registry Strategy) :
    List Descriptor → Context → Act υ (List Renderable)
  | [], _ => pure []
  | d :: ds, c => do
    let r ← dispatch reg d c
    let rs ← dispatchList reg ds c
    pure (r :: rs)

end

end Render
end RemoteScreen
