import RemoteScreen.Fetch.Fetcher
import RemoteScreen.Render.Renderer
import RemoteScreen.Toolkit.Basic

/-! Views: what builds the widgets of a renderable and keeps them up to date. Views are numbered in
order of creation, and own other views. -/
namespace RemoteScreen

/-- What widgets, timers and events can be told to do. -/
inductive Command where
  /-- Turn a carousel to its next page, or to the one before. -/
  | turn (view : Nat) (forward : Bool)
  | activate (r : Renderable)
  /-- Move a canvas along with its scrollbar, or the other way round. -/
  | follow (widget : Nat)
  /-- Fit the scroll region of a row to its slots. -/
  | measure (view : Nat)
  /-- Apply the images that have arrived. -/
  | poll
  /-- Show the result of a fetch, if it is there. -/
  | collect
  | reload
  | close
  | fitContents
  | fitWidth
  | wheel
  | scroll (units : Int)

inductive ViewKind where
  | component | card | stat | action | unknown | carousel | hscroll | screen
  deriving DecidableEq, Repr

namespace ViewKind

def name : ViewKind → String
  | component => "Component"
  | card => "CardView"
  | stat => "StatView"
  | action => "ActionView"
  | unknown => "UnknownView"
  | carousel => "CarouselView"
  | hscroll => "HScrollView"
  | screen => "ServerDrivenScreen"

def all : List ViewKind := [component, card, stat, action, unknown, carousel, hscroll, screen]

def ofName? (s : String) : Option ViewKind := all.find? fun k => k.name == s

def ofRenderable : Renderable → ViewKind
  | .card .. => card
  | .stat .. => stat
  | .action .. => action
  | .unknown .. => unknown
  | .carousel .. => carousel
  | .hscroll .. => hscroll
  | .plain _ => unknown

/-- Views that show no renderable but only hold other views. -/
def isGroup : ViewKind → Bool
  | component => true
  | screen => true
  | _ => false

end ViewKind

/-- The widgets that a mounted view goes on using. -/
inductive Parts where
  | none
  | card (label : Nat)
  | carousel (host previous label next : Nat)
  | hscroll (canvas : Nat) (windows holders : List Nat)
  deriving DecidableEq, Repr

structure View where
  kind : ViewKind
  id : String
  name : String
  renderable : Option Renderable := none
  packing : Attributes := [("fill", .text "x")]
  components : List Nat := []
  /-- The widget of a mounted view. -/
  root : Option Nat := none
  /-- The page that a carousel is at. -/
  index : Nat := 0
  parts : Parts := .none

namespace View

def isMounted (v : View) : Bool := v.root.isSome

def region? (v : View) : Option Nat := v.renderable.bind Renderable.region?

/-- A page fills its place. -/
def pagePacking : Attributes := [("fill", .text "both"), ("expand", .bool true)]

/-- One view of a stack below the other. -/
def stackPacking : Attributes :=
  [("fill", .text "x"), ("pady", .list [.int 0, .int Style.stackSpacing])]

/-- What a view is known as. -/
def shown (v : View) : String :=
  s!"<{v.kind.name} id={Text.quote v.id} name={Text.quote v.name}>"

def pages (v : View) : List Renderable :=
  match v.renderable with
  | some (.carousel _ _ pages _) => pages
  | _ => []

/-- Where the views that a view owns are mounted. -/
def childParent? (v : View) : Option Nat :=
  match v.parts with
  | .carousel host _ _ _ => some host
  | _ => v.root

/-- What a view shows that has been given nothing to show. -/
def placeholder (kind : ViewKind) (id : String) (region : Nat) : Renderable :=
  match kind with
  | .card => .card id "" "" region
  | .stat => .stat id "" "" 1
  | .action => .action id "" none
  | .carousel => .carousel id "" [] 300
  | .hscroll => .hscroll id "" [] Renderable.slotSpacing
  | _ => .unknown id "" Renderable.unknownMessage

end View

/-- A renderable that no view shows is shown as unknown. -/
def Renderable.visible (r : Renderable) : Renderable :=
  match r with
  | .plain id => .unknown id r.kind unknownMessage
  | r => r

/-- The screen: a stack of views for the response that was shown last. -/
structure Screen where
  view : Nat := 0
  pollMs : Int := 50
  renderer : Renderer := {}
  response : Option Response := none
  pass : Option Pass := none
  rendered : List Renderable := []
  pollAlarm : Option Nat := none

/-- The application: one window, one screen, and fetches in the background. -/
structure Application where
  title : String := ""
  geometry : String := ""
  fetcher : Fetcher := { endpoint := "" }
  loading : Bool := false
  /-- How many fetches have been started and not run. -/
  workers : Nat := 0
  results : List FetchResult := []
  last : Option FetchResult := none
  contents : Nat := 0
  canvas : Option Nat := none

/-- What an application is known as. -/
def Application.shown (a : Application) : String := s!"<App title={Text.quote a.title}>"

/-- All that is on screen. -/
structure Ui where
  kit : Toolkit Command := .withWindow
  views : List View := []
  /-- How many ids have been made up. -/
  named : Nat := 0
  screen : Screen := {}
  application : Application := {}

end RemoteScreen
