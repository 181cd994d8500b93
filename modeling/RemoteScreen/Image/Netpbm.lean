import RemoteScreen.Image.Source
import RemoteScreen.Number.Numeral

/-! The plain image formats: a word that tells the kind, the width, the height and the greatest
value as numerals, and the points as octets or as numerals. -/
namespace RemoteScreen
namespace Image
namespace Netpbm

def isSpace (x : UInt8) : Bool := x == 0x20 || (9 ≤ x && x ≤ 13)

def isLineEnd (x : UInt8) : Bool := x == 10 || x == 13

def hash : UInt8 := 0x23

/-- What the points of an image are made of. -/
inductive Colour where
  | bit | grey | float | colours (bands : Nat)
  deriving DecidableEq, Repr

/-- How the points are written. -/
structure Kind where
  colour : Colour
  asNumerals : Bool := false
  deriving DecidableEq, Repr

def kinds : List (Octets × Kind) := [
  (ascii "P1", ⟨.bit, true⟩), (ascii "P2", ⟨.grey, true⟩), (ascii "P3", ⟨.colours 3, true⟩),
  (ascii "P4", ⟨.bit, false⟩), (ascii "P5", ⟨.grey, false⟩), (ascii "P6", ⟨.colours 3, false⟩),
  (ascii "P0CMYK", ⟨.colours 4, false⟩), (ascii "Pf", ⟨.float, false⟩),
  (ascii "PyP", ⟨.colours 1, false⟩), (ascii "PyRGBA", ⟨.colours 4, false⟩),
  (ascii "PyCMYK", ⟨.colours 4, false⟩)]

/-- Whether octets begin as such an image does. -/
def accepts : Octets → Bool
  | p :: x :: _ => p == 0x50 && (ascii "0123456fy").contains x
  | _ => false

/-- The longest word of a kind. -/
def maxWord : Nat := 6

/-- The word at the beginning, and what follows the space after it. -/
def word (octets : Octets) : Octets × Octets :=
  let word := (octets.take maxWord).takeWhile fun x => !isSpace x
  (word, octets.drop (if word.length < maxWord then word.length + 1 else maxWord))

/-- A numeral and what follows the space after it. Space before it is left out, and so are notes,
from a hash to the end of the line, even inside it. `inNote` says that a note is being left out.
-/
def token (inNote : Bool) (sofar : Octets) : Octets → Octets × Octets
  | [] => (sofar, [])
  | x :: xs =>
    if inNote then token (!isLineEnd x) sofar xs
    else if isSpace x then if sofar.isEmpty then token false [] xs else (sofar, xs)
    else if x = hash then token true sofar xs
    else token false (sofar ++ [x]) xs

/-- The most octets of a numeral. -/
def maxToken : Nat := 10

/-- A numeral as a text. Octets past ASCII are no part of any numeral. -/
def tokenText (token : Octets) : String :=
  String.ofList (token.map fun x => if x < 0x80 then Char.ofNat x.toNat else '?')

def toInt (token : Octets) : Read Int :=
  if token.isEmpty || maxToken < token.length then .error .value
  else (Number.whole (tokenText token)).mapError fun _ => .value

def number (octets : Octets) : Read (Int × Octets) := do
  let (token, rest) := token false [] octets
  .ok (← toInt token, rest)

/-- Octets less the notes in them. -/
def withoutNotes (inNote : Bool) : Octets → Octets
  | [] => []
  | x :: xs =>
    if inNote then withoutNotes (!isLineEnd x) xs
    else if x = hash then withoutNotes true xs
    else x :: withoutNotes false xs

/-- Points of one bit each as digits, with or without space between them. -/
def checkBits (count : Nat) (octets : Octets) : Read Unit :=
  let digits := (withoutNotes false octets).filter fun x => !isSpace x
  if digits.all (fun x => x == 0x30 || x == 0x31) && count ≤ digits.length then .ok ()
  else .error .value

/-- Points as numerals up to a greatest value. The last numeral may not be too long, even if it does
not count. -/
def checkNumerals (count : Nat) (greatest : Int) (octets : Octets) : Read Unit := do
  let octets := withoutNotes false octets
  let tokens := (octets.splitOnP isSpace).filter fun t => !t.isEmpty
  if (octets.getLast?.any fun x => !isSpace x) && (tokens.getLast?.any fun t => maxToken < t.length)
  then throw .value
  if tokens.length < count then throw .value
  (tokens.take count).forM fun t => do
    let n ← toInt t
    if n < 0 ∨ greatest < n then throw .value

def checkLength (count : Nat) (e : SourceError) (octets : Octets) : Read Unit :=
  if count ≤ octets.length then .ok () else .error e

/-- The greatest of all values, and the one that needs no scaling. -/
def isGreatest (n : Int) : Bool := 0 < n && n < 65536

def checkScale (octets : Octets) : Read Octets := do
  let (token, rest) := token false [] octets
  if token.isEmpty || maxToken < token.length then throw .value
  match Number.float (tokenText token) with
  | .ok x => if x == 0.0 || !x.isFinite then throw .value else .ok rest
  | .error _ => throw .value

/-- The points of an image whose width and height are known. -/
def checkPicture (k : Kind) (size : Size) (greatest : Option Int) (rest : Octets) : Read Unit :=
  let points := size.width * size.height
  match k.colour, greatest with
  | .bit, _ =>
    if k.asNumerals then checkBits points rest
    else checkLength (rowOctets size.width 1 * size.height) .truncated rest
  | .float, _ => checkLength (points * 4) .truncated rest
  | colour, greatest =>
    let greatest := greatest.getD 255
    let bands := match colour with | .colours n => n | _ => 1
    let octets := if greatest < 256 then 1 else 2
    if k.asNumerals then checkNumerals (points * bands) greatest rest
    else
      let raw := greatest = 255 ∨ (greatest = 65535 ∧ colour = .grey)
      checkLength (points * bands * octets) (if raw then .truncated else .value) rest

/-- The size of an image that is whole. -/
def read (octets : Octets) : Read Size := do
  let (word, rest) := word octets
  match kinds.lookup word with
  | none => throw .unidentified
  | some k => do
    let (width, rest) ← number rest
    let (height, rest) ← number rest
    let (greatest, rest) ← match k.colour with
      | .bit => .ok (none, rest)
      | .float => do pure (none, ← checkScale rest)
      | _ => do
        let (n, rest) ← number rest
        if isGreatest n then .ok (some n, rest) else throw .value
    if width ≤ 0 ∨ height ≤ 0 then throw .unidentified
    let size ← checkPoints ⟨width.toNat, height.toNat⟩
    checkPicture k size greatest rest
    .ok size

end Netpbm
end Image
end RemoteScreen
