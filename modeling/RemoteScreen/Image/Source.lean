import RemoteScreen.Image.Thumbnail
import RemoteScreen.Text.Utf8

/-! What all image formats have in common: the octets of an image, the errors in them, and numbers
of several octets. -/
namespace RemoteScreen
namespace Image

abbrev Octets := Text.Utf8.Octets

/-- Why octets give no image. -/
inductive SourceError where
  /-- No format knows them. -/
  | unidentified
  /-- They are too short, or the picture in them is broken. -/
  | truncated
  /-- A number in them makes no sense. -/
  | value
  /-- A part that should begin does not. -/
  | noPart
  /-- There are more points than anybody wants to see. -/
  | tooLarge
  deriving DecidableEq, Repr

def SourceError.kind : SourceError → String
  | unidentified => "UnidentifiedImageError"
  | truncated => "OSError"
  | value => "ValueError"
  | noPart => "SyntaxError"
  | tooLarge => "DecompressionBombError"

abbrev Read := Except SourceError

/-- The most points of an image that is opened. -/
def maxPoints : Nat := 178956970

def checkPoints (size : Size) : Read Size :=
  if maxPoints < size.width * size.height then .error .tooLarge else .ok size

/-- Octets as digits of a number, the greatest first. -/
def ofBig (octets : Octets) : Nat := octets.foldl (fun n x => n * 256 + x.toNat) 0

def ofLittle (octets : Octets) : Nat := ofBig octets.reverse

/-- So many octets and the rest, if there are enough. -/
def takeExactly? (n : Nat) (octets : Octets) : Option (Octets × Octets) :=
  if n ≤ octets.length then some (octets.take n, octets.drop n) else none

/-- Octets from a place on, if there are enough. -/
def sliceAt? (octets : Octets) (place n : Nat) : Option Octets :=
  (takeExactly? n (octets.drop place)).map (·.1)

/-- The octets that a row of points takes. -/
def rowOctets (width bits : Nat) : Nat := (width * bits + 7) / 8

def ascii (s : String) : Octets := Text.Utf8.encode s.toList

end Image
end RemoteScreen
