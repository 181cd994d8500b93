import RemoteScreen.Failure
import RemoteScreen.Journal

/-! The names that each package of the program makes public, and the modules that define them. -/
namespace RemoteScreen

structure Export where
  name : String
  home : String
  deriving DecidableEq, Repr

/-- Where a public name is defined. -/
def Export.path (e : Export) : String := s!"{e.home}.{e.name}"

structure Package where
  name : String
  exports : List Export

namespace Package

def fullName (package : String) : String := s!"{programName}.{package}"

/-- A package from its modules, each with the names it defines. -/
def ofModules (name : String) (modules : List (String × List String)) : Package where
  name := fullName name
  exports := modules.flatMap fun m => m.2.map fun n => ⟨n, s!"{fullName name}.{m.1}"⟩

def render : Package := ofModules "render" [
  ("tree", ["TreeRenderer"]),
  ("registry", ["RendererRegistry", "RenderStrategy"]),
  ("context", ["RenderContext"]),
  ("strategies", ["default_registry", "build_default_registry"]),
  ("passes", ["RenderPass", "PassTracker"]),
  ("actions", ["ActionSink", "LogActionSink", "MemoryActionSink"]),
  ("renderables", ["Renderable", "CardRenderable", "StatRenderable", "ActionRenderable",
    "CarouselRenderable", "HScrollRenderable", "UnknownRenderable", "ImageRegion", "ImageState",
    "walk"])]

def ui : Package := ofModules "ui" [
  ("component", ["Component"]),
  ("screen", ["ServerDrivenScreen"]),
  ("views", ["build_view", "CardView", "StatView", "ActionView", "UnknownView", "CarouselView",
    "HScrollView"]),
  ("theme", ["apply_theme"])]

def app : Package := ofModules "app" [("app", ["App"])]

def all : List Package := [render, ui, app]

def ofName? (name : String) : Option Package := all.find? fun p => p.name == fullName name

/-- The public names in the order of their characters. -/
def names (p : Package) : List String :=
  (p.exports.map Export.name).mergeSort fun a b => decide (a ≤ b)

def lookup (p : Package) (name : String) : Except Failure Export :=
  match p.exports.find? fun e => e.name == name with
  | some e => .ok e
  | none => .error (.noAttribute p.name name)

end Package
end RemoteScreen
