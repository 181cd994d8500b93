import RemoteScreen.Action.Sink
import RemoteScreen.Pass
import RemoteScreen.Render.Registry
import RemoteScreen.Renderable.Basic

/-! What a strategy sees besides its own descriptor. -/
namespace RemoteScreen

/-- Who is asked for the images of cards. -/
inductive ImageSource where
  | none
  /-- Writes down what is asked for, and refuses some URLs. -/
  | recorder (refused : List String)
  | loader

/-- Inside a container only some types are allowed, and placeholders carry its message. -/
structure Context where
  actions : Sink := .journal
  images : ImageSource := .none
  pass : Option Pass := .none
  allowed : Option (List String) := .none
  message : String := Renderable.unknownMessage
  depth : Nat := 0

namespace Context

def allows (c : Context) (tag : String) : Bool :=
  match c.allowed with
  | some tags => tags.contains tag
  | none => true

def accepts {σ : Type} (c : Context) (reg : Registry σ) (tag : String) : Bool :=
  reg.has tag && c.allows tag

/-- The context of a container's children. -/
def within (c : Context) (allowed : List String) (message : String) : Context :=
  { c with allowed := some allowed, message, depth := c.depth + 1 }

@[simp] theorem depth_within (c : Context) (allowed : List String) (message : String) :
    (c.within allowed message).depth = c.depth + 1 := rfl

end Context
end RemoteScreen
