import RemoteScreen.Json.Basic
import RemoteScreen.Value

/-! Values as JSON documents. A document tells whole numbers from others: the latter, and whole
numbers too large for every reader, stand as a text under a key that says which they are. -/
namespace RemoteScreen

namespace Json

def int (n : Int) : Json := .number (toString n)

def optional {α : Type} (f : α → Json) : Option α → Json
  | some x => f x
  | none => .null

def texts (ss : List String) : Json := .list (ss.map .text)

def int? : Json → Option Int
  | .number s => s.toInt?
  | _ => none

end Json

namespace Value

def floatDocument (x : Float) : Json := .object [("float", .text (Number.floatText x))]

/-- Whole numbers from here on are too large for some readers. -/
def largeInt : Nat := Nat.pow 2 53

def intDocument (n : Int) : Json :=
  if n.natAbs < largeInt then .int n else .object [("int", .text (toString n))]

mutual

def toDocument : Value → Json
  | null => .null
  | bool b => .bool b
  | int n => intDocument n
  | float x => floatDocument x
  | text s => .text s
  | list xs => .list (itemDocuments xs)
  | map es => .object (entryDocuments es)

def itemDocuments : List Value → List Json
  | [] => []
  | x :: xs => toDocument x :: itemDocuments xs

def entryDocuments : List (String × Value) → List (String × Json)
  | [] => []
  | (k, x) :: es => (k, toDocument x) :: entryDocuments es

end

def floatOf (s : String) : Value := float ((Number.float s).toOption.getD 0.0)

def numberOf (s : String) : Value :=
  match s.toInt? with
  | some n => int n
  | none => floatOf s

mutual

def ofDocument : Json → Value
  | .null => null
  | .bool b => bool b
  | .number s => numberOf s
  | .text s => text s
  | .list xs => list (ofItems xs)
  | .object [("float", .text s)] => floatOf s
  | .object [("int", .text s)] => int (s.toInt?.getD 0)
  | .object es => map (ofEntries es)

def ofItems : List Json → List Value
  | [] => []
  | x :: xs => ofDocument x :: ofItems xs

def ofEntries : List (String × Json) → List (String × Value)
  | [] => []
  | (k, x) :: es => (k, ofDocument x) :: ofEntries es

end

end Value

namespace Attributes

def toDocument (a : Attributes) : Json := .object (Value.entryDocuments a)

end Attributes
end RemoteScreen
