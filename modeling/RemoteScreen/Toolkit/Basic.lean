import RemoteScreen.Json.Basic
import RemoteScreen.Toolkit.Style
import RemoteScreen.Toolkit.Widget

/-! A toolkit: all widgets ever made, numbered in order of creation, which of them are destroyed,
and what is to be done later. A widget is made after its parent, so parents have smaller numbers. -/
namespace RemoteScreen

/-- Something to do at a time, set through a widget. -/
structure Alarm (κ : Type) where
  number : Nat
  owner : Nat
  due : Int
  command : κ

/-- Something to do as soon as nothing else is, set through a widget. -/
structure Errand (κ : Type) where
  owner : Nat
  command : κ

structure Toolkit (κ : Type) where
  widgets : List (Widget κ) := []
  /-- Destroyed widgets, in the order of their destruction. -/
  destroyed : List Nat := []
  now : Int := 0
  alarms : List (Alarm κ) := []
  nextAlarm : Nat := 0
  errands : List (Errand κ) := []
  styles : StyleBook := {}
  display : Int × Int := (1000, 900)
  /-- The box around everything in a canvas. -/
  contents : List Int := [0, 0, 100, 200]
  scrolls : List (Int × String) := []

namespace Toolkit

variable {κ : Type}

/-- A toolkit with its application window, which is widget 0. -/
def withWindow : Toolkit κ := { widgets := [{ kind := .window, parent := none }] }

def isAlive (k : Toolkit κ) (w : Nat) : Bool :=
  w < k.widgets.length && !k.destroyed.contains w

def widget? (k : Toolkit κ) (w : Nat) : Option (Widget κ) := k.widgets[w]?

/-- The children of a widget in order of creation. -/
def children (k : Toolkit κ) (w : Nat) : List Nat :=
  (k.widgets.zipIdx.filter fun (x, c) => x.parent == some w && k.isAlive c).map Prod.snd

/-- A widget and all below it, each after everything below it. -/
def subtree (k : Toolkit κ) (w : Nat) : List Nat :=
  k.widgets.zipIdx.foldl (fun acc (x, c) =>
    if (c == w || x.parent.any acc.contains) && k.isAlive c then c :: acc else acc) []

/-- The widgets that are not destroyed. -/
def alive (k : Toolkit κ) : List Nat := (List.range k.widgets.length).filter k.isAlive

/-- The height that a widget asks for. -/
def requestedHeight (k : Toolkit κ) (w : Nat) : Int := 10 * (k.subtree w).length

/-! Making and changing widgets. Nothing can be done with a destroyed widget. -/

def create? (k : Toolkit κ) (parent : Nat) (kind : WidgetKind) (aspects : Aspects κ) :
    Option (Toolkit κ × Nat) :=
  if k.isAlive parent then
    some ({ k with widgets := k.widgets ++ [{ kind, parent := some parent, aspects }] },
      k.widgets.length)
  else none

def update (k : Toolkit κ) (w : Nat) (f : Widget κ → Widget κ) : Toolkit κ :=
  { k with widgets := k.widgets.modify w f }

def overlay (base top : Aspects κ) : Aspects κ :=
  top.foldl (fun acc e => Json.putEntry e.1 e.2 acc) base

def configure? (k : Toolkit κ) (w : Nat) (aspects : Aspects κ) : Option (Toolkit κ) :=
  if k.isAlive w then
    some (k.update w fun x => { x with aspects := overlay x.aspects aspects })
  else none

def pack? (k : Toolkit κ) (w : Nat) (packing : Aspects κ) : Option (Toolkit κ) :=
  if k.isAlive w then some (k.update w fun x => { x with packing := some packing }) else none

/-- Shows a widget in a canvas. The items of a canvas count from one. -/
def addItem (k : Toolkit κ) (canvas : Nat) (item : CanvasItem κ) : Toolkit κ × Nat :=
  (k.update canvas fun x => { x with items := x.items ++ [item] },
    ((k.widget? canvas).map fun x => x.items.length).getD 0 + 1)

def configureItem (k : Toolkit κ) (canvas item : Nat) (aspects : Aspects κ) : Toolkit κ :=
  k.update canvas fun x => { x with
    items := x.items.modify (item - 1) fun i => { i with aspects := overlay i.aspects aspects } }

def bind (k : Toolkit κ) (w : Nat) (event : String) (command : κ) : Toolkit κ :=
  k.update w fun x => { x with bindings := Json.putEntry event command x.bindings }

/-- Destroys a widget and all below it; what was to be done through them is dropped. -/
def destroy (k : Toolkit κ) (w : Nat) : Toolkit κ :=
  let gone := k.subtree w
  { k with
    destroyed := k.destroyed ++ gone
    alarms := k.alarms.filter fun a => !gone.contains a.owner
    errands := k.errands.filter fun e => !gone.contains e.owner }

/-! Things to do later -/

def after? (k : Toolkit κ) (owner : Nat) (delay : Int) (command : κ) :
    Option (Toolkit κ × Nat) :=
  if k.isAlive owner then
    some ({ k with
      alarms := k.alarms ++ [⟨k.nextAlarm, owner, k.now + delay, command⟩]
      nextAlarm := k.nextAlarm + 1 }, k.nextAlarm)
  else none

def cancel (k : Toolkit κ) (alarm : Nat) : Toolkit κ :=
  { k with alarms := k.alarms.filter (·.number != alarm) }

def whenIdle? (k : Toolkit κ) (owner : Nat) (command : κ) : Option (Toolkit κ) :=
  if k.isAlive owner then some { k with errands := k.errands ++ [⟨owner, command⟩] } else none

/-- The earlier of two alarms; of two at the same time, the one that was set first. -/
def sooner (a b : Alarm κ) : Bool := a.due < b.due || (a.due == b.due && a.number ≤ b.number)

/-- The alarms in the order they go off. -/
def agenda (k : Toolkit κ) : List (Alarm κ) := k.alarms.mergeSort sooner

/-- Takes the next alarm that goes off up to a time, and moves the clock there. -/
def takeAlarm? (k : Toolkit κ) (limit : Int) : Option (Toolkit κ × κ) :=
  match k.agenda with
  | a :: _ =>
    if a.due ≤ limit then some ({ k.cancel a.number with now := a.due }, a.command) else none
  | [] => none

def takeErrand? (k : Toolkit κ) : Option (Toolkit κ × κ) :=
  match k.errands with
  | e :: es => some ({ k with errands := es }, e.command)
  | [] => none

@[simp] theorem alarms_cancel (k : Toolkit κ) (alarm : Nat) :
    (k.cancel alarm).alarms = k.alarms.filter (·.number != alarm) := rfl

@[simp] theorem destroyed_destroy (k : Toolkit κ) (w : Nat) :
    (k.destroy w).destroyed = k.destroyed ++ k.subtree w := rfl

end Toolkit
end RemoteScreen
