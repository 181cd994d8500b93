import RemoteScreen.Image.Source

/-! Images whose header tells where their points are: rows of points, each filled up to a multiple
of four octets, or runs of equal points. -/
namespace RemoteScreen
namespace Image
namespace Bmp

def accepts (octets : Octets) : Bool := (ascii "BM").isPrefixOf octets

/-- Numbers of two and of four octets at a place. -/
def half (octets : Octets) (place : Nat) : Nat := ofLittle ((octets.drop place).take 2)

def word (octets : Octets) (place : Nat) : Nat := ofLittle ((octets.drop place).take 4)

structure Header where
  size : Size
  /-- The bits of a point. -/
  bits : Nat
  /-- How the points are written. -/
  way : Nat := 0
  /-- The number of colours in the table, and the octets of one of them. -/
  colours : Nat
  colourOctets : Nat
  /-- Which bits of a point make red, green, blue and what lets the ground through. -/
  masks : List Nat := []
  /-- What follows the header. -/
  rest : Octets

/-- Octets before the header: two for the kind, and in the end where the points are. -/
def preamble : Nat := 14

/-- A header of the oldest kind. -/
def oldHeader (body rest : Octets) : Header where
  size := ⟨half body 0, half body 2⟩
  bits := half body 6
  colours := Nat.pow 2 (half body 6)
  colourOctets := 3
  rest := rest

/-- A short header has its masks behind it, and then it has three of them. -/
def masks (body rest : Octets) : Read (List Nat × Octets) :=
  if 48 ≤ body.length then
    let last := if 52 ≤ body.length then word body 48 else 0
    .ok ([word body 36, word body 40, word body 44, last], rest)
  else match takeExactly? 12 rest with
    | some (m, rest) => .ok ([word m 0, word m 4, word m 8, 0], rest)
    | none => .error .unidentified

def masked : Nat := 3

/-- A height below zero says that the highest row comes first. -/
def header (body rest : Octets) : Read Header := do
  let way := word body 12
  let bits := half body 10
  let height := word body 4
  let (masks, rest) ← if way = masked then masks body rest else .ok ([], rest)
  .ok {
    size := ⟨word body 0, if body[7]? = some 0xFF then Nat.pow 2 32 - height else height⟩
    bits, way, masks, rest
    colours := if word body 28 = 0 then Nat.pow 2 bits else word body 28
    colourOctets := 4 }

/-- The lengths of the headers that are known. -/
def oldLength : Nat := 12

def lengths : List Nat := [40, 52, 56, 64, 108, 124]

/-- The masks that are known, with the bits of the points they are for. -/
def knownMasks : List (Nat × List Nat) := [
  (32, [0xFF0000, 0xFF00, 0xFF, 0]), (32, [0xFF000000, 0xFF0000, 0xFF00, 0]),
  (32, [0xFF000000, 0xFF00, 0xFF, 0]), (32, [0xFF000000, 0xFF0000, 0xFF00, 0xFF]),
  (32, [0xFF, 0xFF00, 0xFF0000, 0xFF000000]), (32, [0xFF0000, 0xFF00, 0xFF, 0xFF000000]),
  (32, [0xFF000000, 0xFF00, 0xFF, 0xFF0000]), (32, [0, 0, 0, 0]), (24, [0xFF0000, 0xFF00, 0xFF]),
  (16, [0xF800, 0x7E0, 0x1F]), (16, [0x7C00, 0x3E0, 0x1F])]

namespace Header

def knowsMasks (h : Header) : Bool :=
  knownMasks.contains (h.bits, if h.bits = 32 then h.masks else h.masks.take 3)

/-- Runs of points come in two ways, of eight bits a point and of four. -/
def isRuns (h : Header) : Bool := h.way == 1 || h.way == 2

def isIndexed (h : Header) : Bool := h.bits ≤ 8

def maxColours : Nat := 65536

/-- The kinds of points, the ways to write them, and the numbers of colours that can be read. -/
def check (h : Header) : Read Unit :=
  let bits := [1, 4, 8, 16, 24, 32].contains h.bits
  let way := h.way == 0 || h.isRuns || (h.way == masked && h.knowsMasks)
  let colours := !h.isIndexed || (0 < h.colours && h.colours ≤ maxColours)
  if bits && way && colours then .ok () else .error .truncated

def tableOctets (h : Header) : Nat := if h.isIndexed then h.colourOctets * h.colours else 0

/-- Whether the table of colours holds greys alone, each at its number, or black and white. -/
def isGrey (h : Header) : Bool :=
  (List.range h.colours).all fun i =>
    let grey := UInt8.ofNat (if h.colours = 2 then 255 * i else i)
    (h.rest.drop (i * h.colourOctets)).take 3 == [grey, grey, grey]

/-- Greys take as many bits as there are greys, whatever the header says. -/
def pointBits (h : Header) : Nat :=
  if h.isIndexed && h.isGrey then if h.colours = 2 then 1 else 8 else h.bits

/-- The octets from one row to the next. -/
def stride (h : Header) : Nat := (h.size.width * h.bits + 31) / 32 * 4

def checkRows (h : Header) (octets : Octets) : Read Unit :=
  let row := rowOctets h.size.width h.pointBits
  if row ≤ h.stride ∧ h.stride * (h.size.height - 1) + row ≤ octets.length then .ok ()
  else .error .truncated

end Header

/-- How many points runs give. `column` is where the next one goes, `even` says whether the place
of the octets is even. A run ends with its row. A zero begins the end of a row or of all, a way to
go from the last point, or points that are no run, which take an even number of octets. -/
def runs (small : Bool) (width : Nat) (even : Bool) :
    (fuel : Nat) → (column points : Nat) → Octets → Read Nat
  | fuel + 1, column, points, count :: x :: rest =>
    let count := count.toNat
    let n := x.toNat
    if count ≠ 0 then
      let count := min count (width - column)
      runs small width even fuel (column + count) (points + count) rest
    else if n = 0 then runs small width even fuel 0 ((points + width - 1) / width * width) rest
    else if n = 1 then .ok points
    else if n = 2 then
      match rest with
      | _ :: _ :: right :: up :: rest =>
        let points := points + right.toNat + up.toNat * width
        runs small width even fuel (points % width) points rest
      | [_, _] | [_, _, _] => .error .value
      | _ => .ok points
    else
      let octets := if small then n / 2 else n
      let each := if small then 2 else 1
      if rest.length < octets then .ok (points + each * rest.length)
      else
        let padded := if (octets % 2 = 0) = even then octets else octets + 1
        runs small width true fuel (column + n) (points + each * octets) (rest.drop padded)
  | _, _, points, _ => .ok points

/-- The size of an image that is whole. Where the points are said to be where the table is, they
follow it. -/
def read (octets : Octets) : Read Size := do
  if octets.length < preamble + 4 then throw .unidentified
  let length := word octets preamble
  let some (body, rest) := takeExactly? (length - 4) (octets.drop (preamble + 4)) | throw .truncated
  let h ← if length = oldLength then .ok (oldHeader body rest)
    else if lengths.contains length then header body rest
    else throw .truncated
  h.check
  if h.size.width = 0 ∨ h.size.height = 0 then throw .unidentified
  let size ← checkPoints h.size
  let said := word octets 10
  let place :=
    if said = 0 then octets.length - (h.rest.drop h.tableOctets).length
    else if said = preamble + length ∧ h.isIndexed then said + 4 * h.colours
    else said
  let points := octets.drop place
  if h.isRuns then
    let n ← runs (h.way = 2) h.size.width (place % 2 = 0) points.length 0 0 points
    if n < h.size.width * h.size.height then throw .value
  else h.checkRows points
  .ok size

end Bmp
end Image
end RemoteScreen
