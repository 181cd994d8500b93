import RemoteScreen.Descriptor.Response
import RemoteScreen.Render.Dispatch
import RemoteScreen.Session.Activation

/-! The tree renderer: one pass over the roots of a response, with what it reports. -/
namespace RemoteScreen

structure Renderer where
  registry : Registry Strategy := .default
  actions : Sink := .journal
  images : ImageSource := .none
  /-- A telemetry channel; without a number, the one of the whole process. -/
  channel : Option Nat := none

namespace Renderer

open Session

variable {υ : Type}

def context (r : Renderer) (pass : Option Pass) : Context :=
  { actions := r.actions, images := r.images, pass }

def passName : Option Pass → String
  | some p => toString p.version
  | none => "-"

def unknownCount (roots : List Renderable) : Nat :=
  (Renderable.walkList roots).countP Renderable.isUnknown

/-- One renderable for each root, in order. -/
def render (r : Renderer) (roots : List Descriptor) (pass : Option Pass) :
    Act υ (List Renderable) := do
  let channel ← channelOr r.channel
  let out ← timed channel "render.pass_ms" []
    (Render.dispatchList r.registry roots (r.context pass))
  let unknown := unknownCount out
  if unknown ≠ 0 then count channel "render.unknown_components" (.int unknown)
  log .debug "render" s!"Render pass={passName pass} roots={out.length} unknown={unknown}"
  pure out

def renderResponse (r : Renderer) (response : Response) (pass : Option Pass) :
    Act υ (List Renderable) := r.render response.components pass

end Renderer

namespace Session

variable {υ : Type}

/-- Activates a renderable. Only an action with a sink does anything. -/
def activateRenderable : Renderable → Act υ Unit
  | .action id _ (some sink) => activate id sink
  | _ => pure ()

end Session
end RemoteScreen
