import RemoteScreen.Compression.Container
import RemoteScreen.Image.Source

/-! Images in chunks: each has a length, a name, its data and a checksum. The points are
compressed row by row, and the data of all chunks that hold them belong together. -/
namespace RemoteScreen
namespace Image
namespace Png

def signature : Octets := [0x89, 0x50, 0x4E, 0x47, 0x0D, 0x0A, 0x1A, 0x0A]

def accepts (octets : Octets) : Bool := signature.isPrefixOf octets

/-- A chunk as far as its octets go: its data may be shorter than its length says. -/
structure Chunk where
  name : Octets
  length : Nat
  data : Octets
  sum : Octets

namespace Chunk

def isNamed (c : Chunk) (name : String) : Bool := c.name == ascii name

def holdsPoints (c : Chunk) : Bool := c.isNamed "IDAT"

def isLast (c : Chunk) : Bool := c.isNamed "IEND"

def isWhole (c : Chunk) : Bool := c.data.length == c.length

end Chunk

def isNameOctet (x : UInt8) : Bool :=
  (0x30 ≤ x && x ≤ 0x39) || (0x41 ≤ x && x ≤ 0x5A) || (0x61 ≤ x && x ≤ 0x7A) || x == 0x5F

/-- The chunks up to where none can begin, and what one who goes on reading there meets. -/
def chunks (octets : Octets) : List Chunk × SourceError :=
  if octets.length < 4 then ([], .truncated)
  else
    let name := (octets.drop 4).take 4
    if name.length = 4 ∧ name.all isNameOctet then
      let length := ofBig (octets.take 4)
      let body := octets.drop 8
      let after := body.drop length
      let c : Chunk := ⟨name, length, body.take length, after.take 4⟩
      let (cs, e) := chunks (after.drop 4)
      (c :: cs, e)
    else ([], .noPart)
termination_by octets.length
decreasing_by
  simp only [List.length_drop]
  omega

/-- What is known of an image before its points come. Points of no known kind have no bits. -/
structure Header where
  size : Size := ⟨0, 0⟩
  bits : Nat := 0
  interlaced : Bool := false

/-- The kinds of points: how many numbers tell a point, and how many bits a number may have. -/
def kinds : List (UInt8 × Nat × List UInt8) := [
  (0, 1, [1, 2, 4, 8, 16]), (2, 3, [8, 16]), (3, 1, [1, 2, 4, 8]), (4, 2, [8, 16]), (6, 4, [8, 16])]

/-- The bits of a point, if there are such points. -/
def bits? (depth kind : UInt8) : Option Nat :=
  (kinds.lookup kind).bind fun (numbers, depths) =>
    if depths.contains depth then some (numbers * depth.toNat) else none

namespace Header

/-- The header with what its own chunk says. Where that tells no known kind, the kind stays. -/
def update (h : Header) (data : Octets) : Read Header :=
  match data.drop 8 with
  | depth :: kind :: _ :: filters :: interlace :: _ =>
    if filters ≠ 0 then .error .unidentified
    else .ok {
      size := ⟨ofBig (data.take 4), ofBig ((data.drop 4).take 4)⟩
      bits := (bits? depth kind).getD h.bits
      interlaced := h.interlaced || interlace != 0 }
  | _ => .error .value

/-- The rows of an image or of one pass through it: how many there are, and of how many octets. -/
structure Rows where
  count : Nat
  octets : Nat

/-- Where a pass begins and how far it goes at a time, for columns and for rows. -/
def passes : List ((Nat × Nat) × (Nat × Nat)) := [
  ((0, 8), (0, 8)), ((4, 8), (0, 8)), ((0, 4), (4, 8)), ((2, 4), (0, 4)), ((0, 2), (2, 4)),
  ((1, 2), (0, 2)), ((0, 1), (1, 2))]

/-- How many places below a limit a pass comes to. -/
def visits (limit : Nat) (pass : Nat × Nat) : Nat := (limit - pass.1 + (pass.2 - 1)) / pass.2

def rows (h : Header) : List Rows :=
  if h.interlaced then
    (passes.map fun pass =>
      let width := visits h.size.width pass.1
      ⟨if width = 0 then 0 else visits h.size.height pass.2, rowOctets width h.bits⟩)
  else [⟨h.size.height, rowOctets h.size.width h.bits⟩]

end Header

/-- How far rows have come. -/
inductive Progress where
  /-- All rows are there. -/
  | complete
  /-- A row has ended and another is to begin. -/
  | between
  /-- A row has begun and is not at its end. -/
  | within
  /-- A row begins with no known filter. -/
  | broken
  deriving DecidableEq, Repr

/-- The greatest number of a filter. -/
def maxFilter : UInt8 := 4

/-- Takes rows from octets; before each row there is the number of its filter. -/
def progress : List Header.Rows → Octets → Progress
  | [], _ => .complete
  | ⟨0, _⟩ :: rows, out => progress rows out
  | _, [] => .between
  | ⟨count + 1, octets⟩ :: rows, filter :: out =>
    if out.length < octets then .within
    else if maxFilter < filter then .broken
    else progress (⟨count, octets⟩ :: rows) (out.drop octets)
termination_by rows out => (out.length, rows.length)

/-- What compressed octets are worth: all the rows, or an error, or nothing yet. Octets that are
followed by a fault at once are not trusted; and an image may end early, but only with a row. -/
def judge (rows : List Header.Rows) (octets : Octets) : Option (Read Unit) :=
  let (out, stop) := Compression.outcome Compression.framedBlocks octets
  let size := (rows.map fun r => r.count * (r.octets + 1)).foldr (· + ·) 0
  let faulty := match stop with | some (.fault _) => true | _ => false
  match progress rows out with
  | .broken => some (.error .truncated)
  | .complete => some (if faulty && out.length = size then .error .truncated else .ok ())
  | .between =>
    if faulty then some (.error .truncated)
    else if stop.isNone && !out.isEmpty then some (.ok ())
    else none
  | .within => if faulty then some (.error .truncated) else none

/-- Reads chunks until all the rows are there, and tells what follows. `ending` is met after the
last chunk. -/
def points (rows : List Header.Rows) (ending : SourceError) (sofar : Octets) :
    List Chunk → Read (List Chunk)
  | [] => .error ending
  | c :: cs =>
    if c.holdsPoints then
      let octets := sofar ++ c.data
      match judge rows octets with
      | some verdict => verdict.map fun _ => cs
      | none => points rows ending octets cs
    else .error .truncated

/-- The chunks after the points up to the last one are whole. -/
def checkRest (cs : List Chunk) : Read Unit :=
  if (cs.takeWhile fun c => !c.isLast).all Chunk.isWhole then .ok () else .error .truncated

/-- Some chunks that say something about the image take a certain length. -/
def checkShape (c : Chunk) : Read Unit :=
  if c.isNamed "cHRM" && c.length % 4 != 0 || c.isNamed "gAMA" && c.length < 4 then
    .error .unidentified
  else if c.isNamed "pHYs" && c.length < 9 || c.isNamed "sRGB" && c.length < 1 then .error .value
  else .ok ()

/-- What a chunk before the points adds to the header. Its checksum has to be right. -/
def Header.read (h : Header) (c : Chunk) : Read Header := do
  if !c.isWhole then throw .truncated
  let h ← if c.isNamed "IHDR" then h.update c.data else .ok h
  checkShape c
  if c.sum.length = 4 ∧ ofBig c.sum = Compression.remainder (c.name ++ c.data) then .ok h
  else .error .unidentified

/-- The header, and the chunks from the first one with points on; none, if the last chunk comes
first. -/
def opened (h : Header) : List Chunk → Read (Header × List Chunk)
  | [] => .error .unidentified
  | c :: cs =>
    if c.holdsPoints then .ok (h, c :: cs)
    else if c.isLast then .ok (h, [])
    else do opened (← h.read c) cs

/-- The size of an image that is whole. -/
def read (octets : Octets) : Read Size := do
  let (cs, ending) := chunks (octets.drop signature.length)
  let (h, cs) ← opened {} cs
  if h.bits = 0 ∨ h.size.width = 0 ∨ h.size.height = 0 then throw .unidentified
  let size ← checkPoints h.size
  if cs.isEmpty then throw .truncated
  checkRest (← points h.rows ending [] cs)
  .ok size

end Png
end Image
end RemoteScreen
