import RemoteScreen.Host.Label
import RemoteScreen.Text.Case

/-! Host names: labels with dots between them, written in plain letters. -/
namespace RemoteScreen
namespace Host

inductive NameError where
  | long
  | label (e : LabelError)
  deriving DecidableEq, Repr

namespace NameError

def kind : NameError → String
  | long => "IDNAError"
  | label e => e.kind

def message : NameError → String
  | long => "Domain too long"
  | label e => e.message

end NameError

/-- The full stops of several scripts. -/
def isStop (n : Nat) : Bool := n == 0x2E || n == 0x3002 || n == 0xFF0E || n == 0xFF61

/-- The labels of a name, and whether a stop closes it. -/
def splitName (name : List Nat) : List (List Nat) × Bool :=
  let labels := name.splitOnP isStop
  if labels.getLast? = some [] then (labels.dropLast, true) else (labels, false)

/-- The most characters of a name, one that closes it included. -/
def maxName : Nat := 254

/-- A name in plain letters, if it is one. Capitals become small letters first. -/
def written? (name : String) : Option String := do
  let points := (Text.lower name).toList.map Char.toNat
  if maxName < points.length then none
  else
    let (labels, closed) := splitName points
    let labels ← labels.mapM plain?
    let written := ".".intercalate labels
    if maxName ≤ written.length then none
    else some (if closed then written ++ "." else written)

/-- Whether a name begins with a label that stands for another. -/
def isWritten (name : String) : Bool := marker.isPrefixOf name.toList

/-- Checks a name in plain letters. -/
def checkWritten (name : String) : Except NameError Unit :=
  if maxName < name.length then .error .long
  else
    ((splitName (name.toList.map Char.toNat)).1.forM fun l =>
      checkPlain (l.map Char.ofNat)).mapError .label

end Host
end RemoteScreen
