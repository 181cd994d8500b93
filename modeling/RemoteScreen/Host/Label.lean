import RemoteScreen.Host.Context
import RemoteScreen.Host.Direction
import RemoteScreen.Host.Punycode
import RemoteScreen.Text.Composed
import RemoteScreen.Text.Quoted

/-! The labels of host names: which texts are labels, and how a label is written in plain letters.
-/
namespace RemoteScreen
namespace Host

/-- What is wrong with a label. Positions count from one, and a complaint about a character shows
the label that holds it. -/
inductive LabelError where
  | empty
  | notComposed
  | innerHyphens
  | outerHyphen
  | leadingMark
  | character (n position : Nat) (label : List Nat)
  | situation (n position : Nat) (label : List Nat)
  | joiner (n position : Nat) (label : List Nat)
  | direction (e : DirectionError) (label : List Nat)
  | nothingWritten
  | openEnd
  | unreadable
  deriving DecidableEq, Repr

namespace LabelError

/-- The kind of error that a complaint is. -/
def kind : LabelError → String
  | character .. => "InvalidCodepoint"
  | situation .. => "InvalidCodepointContext"
  | direction .. => "IDNABidiError"
  | _ => "IDNAError"

/-- The number of a character in four or more hexadecimal digits. -/
def number (n : Nat) : String :=
  let ds := (Nat.toDigits 16 n).map Char.toUpper
  "U+" ++ String.ofList (List.replicate (4 - ds.length) '0' ++ ds)

def directionMessage (label : List Nat) : DirectionError → String
  | .unknown p => s!"Unknown directionality in label {Text.quotePoints label} at position {p}"
  | .beginning =>
    s!"First codepoint in label {Text.quotePoints label} must be directionality L, R or AL"
  | .inRight p => s!"Invalid direction for codepoint at position {p} in a right-to-left label"
  | .inLeft p => s!"Invalid direction for codepoint at position {p} in a left-to-right label"
  | .mixedDigits => "Can not mix numeral types in a right-to-left label"
  | .ending => "Label ends with illegal codepoint directionality"

def message : LabelError → String
  | empty => "Empty Label"
  | notComposed => "Label must be in Normalization Form C"
  | innerHyphens => "Label has disallowed hyphens in 3rd and 4th position"
  | outerHyphen => "Label must not start or end with a hyphen"
  | leadingMark => "Label begins with an illegal combining character"
  | character n p l =>
    s!"Codepoint {number n} at position {p} of {Text.quotePoints l} not allowed"
  | situation n p l =>
    s!"Codepoint {number n} not allowed at position {p} in {Text.quotePoints l}"
  | joiner n p l =>
    s!"Unknown codepoint adjacent to joiner {number n} at position {p} in {Text.quotePoints l}"
  | direction e l => directionMessage l e
  | nothingWritten => "Malformed A-label, no Punycode eligible content found"
  | openEnd => "A-label must not end with a hyphen"
  | unreadable => "Invalid A-label"

end LabelError

def hyphen : Nat := 0x2D

/-- Checks what is left of a label, after what stands `before` it, the nearest first. -/
def checkCharacters (label before : List Nat) : List Nat → Except LabelError Unit
  | [] => .ok ()
  | n :: after =>
    let position := before.length + 1
    if isLetter n then checkCharacters label (n :: before) after
    else if isJoiner n then
      if joinerFits before n after then checkCharacters label (n :: before) after
      else .error (.joiner n position label)
    else if isSituational n then
      if situationFits before n after then checkCharacters label (n :: before) after
      else .error (.situation n position label)
    else .error (.character n position label)

def checkLabel (label : List Nat) : Except LabelError Unit :=
  match label.head?, label.getLast? with
  | some first, some last =>
    if !Text.isComposed label then .error .notComposed
    else if (label.drop 2).take 2 = [hyphen, hyphen] then .error .innerHyphens
    else if first = hyphen ∨ last = hyphen then .error .outerHyphen
    else if Text.isMark first then .error .leadingMark
    else do
      checkCharacters label [] label
      (checkDirections label).mapError fun e => .direction e label
  | _, _ => .error .empty

/-- What marks a label that stands for one with characters past ASCII. -/
def marker : List Char := "xn--".toList

def isPlain (label : List Nat) : Bool := label.all (· < firstPoint)

/-- Checks a label in plain letters, and the one that it stands for. -/
def checkPlain (label : List Char) : Except LabelError Unit :=
  if marker.isPrefixOf label then
    let written := label.drop marker.length
    if written.isEmpty then .error .nothingWritten
    else if written.getLast? = some '-' then .error .openEnd
    else
      match decode? written with
      | some label => checkLabel label
      | none => .error .unreadable
  else checkLabel (label.map Char.toNat)

/-- The most characters that a label has in plain letters. -/
def maxLabel : Nat := 63

/-- A label in plain letters, if it is one. -/
def plain? (label : List Nat) : Option String :=
  let chars := label.map Char.ofNat
  let written := if isPlain label then String.ofList chars else String.ofList marker ++ encode label
  let check := if isPlain label then checkPlain chars else checkLabel label
  if check.toBool && written.length ≤ maxLabel then some written else none

end Host
end RemoteScreen
