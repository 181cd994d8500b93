import RemoteScreen.Number.Numeral
import RemoteScreen.Number.Shortest

/-! Values of settings, attributes and images: what each counts as and how it is shown. -/
namespace RemoteScreen

inductive Value where
  | null
  | bool (b : Bool)
  | int (n : Int)
  | float (x : Float)
  | text (s : String)
  | list (items : List Value)
  | map (entries : List (String × Value))
  deriving Inhabited

abbrev Attributes := List (String × Value)

inductive ValueError where
  | numeral (e : Number.NumeralError)
  | notFloat (kind : String)
  | notWhole (kind : String)
  | tooLarge
  | infinite
  | notANumber
  deriving DecidableEq, Repr

def ValueError.message : ValueError → String
  | .numeral e => e.message
  | .notFloat kind => s!"float() argument must be a string or a real number, not '{kind}'"
  | .notWhole kind =>
    s!"int() argument must be a string, a bytes-like object or a real number, not '{kind}'"
  | .tooLarge => "int too large to convert to float"
  | .infinite => "cannot convert float infinity to integer"
  | .notANumber => "cannot convert float NaN to integer"

namespace Value

def isNull : Value → Bool
  | null => true
  | _ => false

/-- Null, zero and everything empty count as false. -/
def truth : Value → Bool
  | null => false
  | bool b => b
  | int n => n != 0
  | float x => x != 0.0
  | text s => s != ""
  | list xs => !xs.isEmpty
  | map es => !es.isEmpty

/-- The name of a value's kind in a message. -/
def kind : Value → String
  | null => "NoneType"
  | bool _ => "bool"
  | int _ => "int"
  | float _ => "float"
  | text _ => "str"
  | list _ => "list"
  | map _ => "dict"

mutual

/-- A value as shown inside another one, where texts are quoted. -/
def shown : Value → String
  | null => "None"
  | bool b => if b then "True" else "False"
  | int n => toString n
  | float x => Number.floatText x
  | text s => Text.quote s
  | list xs => "[" ++ shownItems xs ++ "]"
  | map es => "\x7b" ++ shownEntries es ++ "\x7d"

def shownItems : List Value → String
  | [] => ""
  | [x] => shown x
  | x :: xs => shown x ++ ", " ++ shownItems xs

def shownEntries : List (String × Value) → String
  | [] => ""
  | [(k, x)] => Text.quote k ++ ": " ++ shown x
  | (k, x) :: es => Text.quote k ++ ": " ++ shown x ++ ", " ++ shownEntries es

end

/-- A value on its own, where a text stands as it is. -/
def display : Value → String
  | text s => s
  | v => shown v

def toFloat : Value → Except ValueError Float
  | bool b => .ok (if b then 1.0 else 0.0)
  | int n =>
    let x := Number.ofInt n
    if Number.isInfinite x then .error .tooLarge else .ok x
  | float x => .ok x
  | text s => (Number.float s).mapError .numeral
  | v => .error (.notFloat v.kind)

def toInt : Value → Except ValueError Int
  | bool b => .ok (if b then 1 else 0)
  | int n => .ok n
  | float x =>
    match Number.parts x with
    | .nan => .error .notANumber
    | .infinite _ => .error .infinite
    | .finite .. => .ok ((Number.truncate? x).getD 0)
  | text s => (Number.whole s).mapError .numeral
  | v => .error (.notWhole v.kind)

end Value
end RemoteScreen
