import RemoteScreen.Value

/-! Widgets: the pieces a window is made of. `κ` is what buttons, timers and bindings can be told to
do. -/
namespace RemoteScreen

inductive WidgetKind where
  | window | canvas | frame | label | button | scrollbar
  deriving DecidableEq, Repr

def WidgetKind.name : WidgetKind → String
  | window => "tk.Tk"
  | canvas => "tk.Canvas"
  | frame => "ttk.Frame"
  | label => "ttk.Label"
  | button => "ttk.Button"
  | scrollbar => "ttk.Scrollbar"

/-- What one option of a widget is set to. -/
inductive Aspect (κ : Type) where
  | value (v : Value)
  | command (c : κ)
  | widget (w : Nat)
  | photo (image : Value)

abbrev Aspects (κ : Type) := List (String × Aspect κ)

namespace Aspect

variable {κ : Type}

def text (s : String) : Aspect κ := value (.text s)

def int (n : Int) : Aspect κ := value (.int n)

def flag (b : Bool) : Aspect κ := value (.bool b)

def command? : Aspect κ → Option κ
  | command c => some c
  | _ => none

end Aspect

/-- Plain values as options. -/
def Aspects.ofValues {κ : Type} (vs : Attributes) : Aspects κ := vs.map fun e => (e.1, .value e.2)

/-- A widget shown in a canvas, at a place. -/
structure CanvasItem (κ : Type) where
  x : Int
  y : Int
  aspects : Aspects κ

structure Widget (κ : Type) where
  kind : WidgetKind
  parent : Option Nat
  aspects : Aspects κ := []
  /-- How the widget is packed, once it is. -/
  packing : Option (Aspects κ) := none
  propagate : Option Bool := none
  states : List String := []
  items : List (CanvasItem κ) := []
  bindings : List (String × κ) := []

namespace Widget

variable {κ : Type}

def disabledState : String := "disabled"

def isDisabled (w : Widget κ) : Bool := w.states.contains disabledState

def setDisabled (w : Widget κ) (on : Bool) : Widget κ :=
  if on then if w.isDisabled then w else { w with states := w.states ++ [disabledState] }
  else { w with states := w.states.filter (· != disabledState) }

/-- What a button does, unless it is disabled. -/
def command? (w : Widget κ) : Option κ :=
  if w.isDisabled then none else (w.aspects.lookup "command").bind Aspect.command?

@[simp] theorem isDisabled_setDisabled (w : Widget κ) (on : Bool) :
    (w.setDisabled on).isDisabled = on := by
  unfold setDisabled isDisabled
  cases on <;> simp
  split <;> simp_all

end Widget
end RemoteScreen
