import RemoteScreen.Text.Mark
import RemoteScreen.Text.Printable

/-! The direction in which the characters of a label are written, and which directions a label may
mix. -/
namespace RemoteScreen
namespace Host

/-- How a character that may stand in a label is written. -/
inductive Direction where
  | left | right | arabic | digit | arabicDigit | sign | neutral | mark | joiner
  deriving DecidableEq, Repr

/-- The characters of labels that are not written from left to right. What cannot stand in a label
does not count. -/
def directionRuns : Array (Nat × Nat × Direction) := #[
  (0x2D, 0x2D, .sign), (0x30, 0x39, .digit), (0xB7, 0xB7, .neutral), (0x2B9, 0x2BA, .neutral),
  (0x2C6, 0x2CF, .neutral), (0x2EC, 0x2EC, .neutral), (0x375, 0x375, .neutral),
  (0x5D0, 0x5F4, .right), (0x620, 0x64A, .arabic), (0x660, 0x669, .arabicDigit),
  (0x66E, 0x6EF, .arabic), (0x6F0, 0x6F9, .digit), (0x6FA, 0x7B1, .arabic), (0x7C0, 0x858, .right),
  (0x860, 0x8C9, .arabic), (0x200C, 0x200D, .joiner), (0x2E2F, 0x2E2F, .neutral),
  (0x30FB, 0x30FB, .neutral), (0xA67F, 0xA67F, .neutral), (0xA717, 0xA71F, .neutral),
  (0xA788, 0xA788, .neutral), (0xFE73, 0xFE73, .arabic), (0x10800, 0x10CF2, .right),
  (0x10D00, 0x10D23, .arabic), (0x10D30, 0x10D39, .arabicDigit), (0x10E80, 0x10F27, .right),
  (0x10F30, 0x10F45, .arabic), (0x10F70, 0x10FF6, .right), (0x1E800, 0x1E959, .right)]

/-- Marks that take up no room and yet are written from left to right. -/
def firmMarks : List Nat := [0xCBF, 0xCC6, 0x11A07, 0x11A08, 0x11C3F]

/-- The direction of a character, if it is assigned. -/
def direction? (n : Nat) : Option Direction :=
  if Text.isNonSpacing n && !firmMarks.contains n then some .mark
  else
    match Text.valueAt? directionRuns n with
    | some .joiner => some .joiner
    | d => if Text.isPrintable (Char.ofNat n) then some (d.getD .left) else none

namespace Direction

def isRightward : Direction → Bool
  | right | arabic | arabicDigit => true
  | _ => false

/-- Which characters a label that begins from the right may hold. -/
def fitsRight : Direction → Bool
  | left => false
  | _ => true

/-- Which characters a label that begins from the left may hold. -/
def fitsLeft : Direction → Bool
  | right | arabic | arabicDigit => false
  | _ => true

def endsRight : Direction → Bool
  | right | arabic | digit | arabicDigit => true
  | _ => false

def endsLeft : Direction → Bool
  | left | digit => true
  | _ => false

end Direction

/-- What is wrong with the directions in a label. Positions count from one. -/
inductive DirectionError where
  | unknown (position : Nat)
  | beginning
  | inRight (position : Nat)
  | inLeft (position : Nat)
  | mixedDigits
  | ending
  deriving DecidableEq, Repr

/-- The first of some positions, counted from one, that holds what is not welcome. -/
def firstNot {α : Type} (welcome : α → Bool) (xs : List α) : Option Nat :=
  (xs.findIdx? fun x => !welcome x).map (· + 1)

/-- How a label begins to mix digits of both kinds: the position of the first digit that differs
from the first digit of all. -/
def mixes (ds : List Direction) : Option Nat :=
  let isDigit (d : Direction) : Bool := d == .digit || d == .arabicDigit
  match ds.find? isDigit with
  | none => none
  | some first => firstNot (fun d => !isDigit d || d == first) ds

/-- The last character that is no mark ends the label. -/
def endsWell (ends : Direction → Bool) (ds : List Direction) : Bool :=
  ((ds.filter (· != .mark)).getLast?).any ends

/-- The rule for labels that hold characters written from the right. -/
def checkMixed (ds : List Direction) : Except DirectionError Unit :=
  match ds.head? with
  | some .right | some .arabic =>
    match firstNot Direction.fitsRight ds, mixes ds with
    | some p, some q => .error (if p ≤ q then .inRight p else .mixedDigits)
    | some p, none => .error (.inRight p)
    | none, some _ => .error .mixedDigits
    | none, none => if endsWell Direction.endsRight ds then .ok () else .error .ending
  | some .left =>
    match firstNot Direction.fitsLeft ds with
    | some p => .error (.inLeft p)
    | none => if endsWell Direction.endsLeft ds then .ok () else .error .ending
  | _ => .error .beginning

/-- Every character needs a direction; the rule counts only where one is written from the right. -/
def checkDirections (cs : List Nat) : Except DirectionError Unit :=
  let ds := cs.map direction?
  match firstNot Option.isSome ds with
  | some p => .error (.unknown p)
  | none =>
    let ds := ds.filterMap id
    if ds.any Direction.isRightward then checkMixed ds else .ok ()

end Host
end RemoteScreen
