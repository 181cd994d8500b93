import RemoteScreen.Action.Sink

/-! Renderables: the tree that a rendering gives, free of any toolkit. -/
namespace RemoteScreen

/-- A place of fixed width in a row. -/
structure Slot (α : Type) where
  width : Int
  content : α

/-- A renderable keeps the id of the descriptor it comes from. A card names its image region by
number; an action names the sink it reports to, if any. -/
inductive Renderable where
  | card (id title body : String) (region : Nat)
  | stat (id label value : String) (maxLines : Nat)
  | action (id title : String) (sink : Option Sink)
  | unknown (id typeTag message : String)
  | carousel (id title : String) (pages : List Renderable) (height : Int)
  | hscroll (id title : String) (slots : List (Slot Renderable)) (spacing : Int)
  | plain (id : String)

namespace Renderable

instance : Inhabited Renderable := ⟨plain ""⟩

def id : Renderable → String
  | card i .. => i
  | stat i .. => i
  | action i .. => i
  | unknown i .. => i
  | carousel i .. => i
  | hscroll i .. => i
  | plain i => i

def kind : Renderable → String
  | card .. => "card"
  | stat .. => "stat"
  | action .. => "action"
  | unknown .. => "unknown"
  | carousel .. => "carousel"
  | hscroll .. => "hscroll"
  | plain _ => "renderable"

def isUnknown : Renderable → Bool
  | unknown .. => true
  | _ => false

def isAction : Renderable → Bool
  | action .. => true
  | _ => false

def children : Renderable → List Renderable
  | carousel _ _ pages _ => pages
  | hscroll _ _ slots _ => slots.map Slot.content
  | _ => []

def region? : Renderable → Option Nat
  | card _ _ _ region => some region
  | _ => none

/-- The message of a placeholder that no container explains. -/
def unknownMessage : String := "Unknown component"

/-- Pixels between two slots of a row. -/
def slotSpacing : Int := 15

mutual

/-- A tree in pre-order. -/
def walk : Renderable → List Renderable
  | r@(carousel _ _ pages _) => r :: walkList pages
  | r@(hscroll _ _ slots _) => r :: walkSlots slots
  | r => [r]

def walkList : List Renderable → List Renderable
  | [] => []
  | r :: rs => walk r ++ walkList rs

def walkSlots : List (Slot Renderable) → List Renderable
  | [] => []
  | ⟨_, r⟩ :: ss => walk r ++ walkSlots ss

end

@[simp] theorem walkList_nil : walkList [] = [] := rfl

@[simp] theorem walkList_cons (r : Renderable) (rs : List Renderable) :
    walkList (r :: rs) = walk r ++ walkList rs := rfl

/-- A page number within the pages there are. -/
def clampPage (count : Nat) (index : Int) : Int := max 0 (min index (count - 1))

/-- "which page / how many", for any index. -/
def pageLabel (count : Nat) (index : Int) : String :=
  if count = 0 then "0 / 0" else s!"{clampPage count index + 1} / {count}"

/-- The width of a row: its slots, and the spacing between each two neighbours. -/
def contentWidth (spacing : Int) (slots : List (Slot Renderable)) : Int :=
  if slots.isEmpty then 0
  else (slots.map Slot.width).foldr (· + ·) 0 + spacing * (slots.length - 1)

section

variable {ρ : Type} [BEq ρ] (look : Nat → ρ)

mutual

/-- Equality by structure. Cards compare what `look` sees of their regions, and sinks take no
part. -/
def same : Renderable → Renderable → Bool
  | card i t b r, card j u c s => i == j && t == u && b == c && look r == look s
  | stat i l v m, stat j k w n => i == j && l == k && v == w && m == n
  | action i t _, action j u _ => i == j && t == u
  | unknown i t m, unknown j u n => i == j && t == u && m == n
  | carousel i t ps h, carousel j u qs k => i == j && t == u && sameList ps qs && h == k
  | hscroll i t ss p, hscroll j u ts q => i == j && t == u && sameSlots ss ts && p == q
  | plain i, plain j => i == j
  | _, _ => false

def sameList : List Renderable → List Renderable → Bool
  | [], [] => true
  | r :: rs, s :: ss => same r s && sameList rs ss
  | _, _ => false

def sameSlots : List (Slot Renderable) → List (Slot Renderable) → Bool
  | [], [] => true
  | ⟨w, r⟩ :: rs, ⟨v, s⟩ :: ss => w == v && same r s && sameSlots rs ss
  | _, _ => false

end

end

end Renderable
end RemoteScreen
