import RemoteScreen.Compression.Inflate
import RemoteScreen.Image.Source

/-! Images on a screen: frames with a place on it, and notes between them. Only the first frame
counts. Its points come as codes for strings, and each code makes a new string known. -/
namespace RemoteScreen
namespace Image
namespace Gif

def accepts (octets : Octets) : Bool :=
  (ascii "GIF87a").isPrefixOf octets || (ascii "GIF89a").isPrefixOf octets

/-- So many octets and the rest. An image that ends before its points is none. -/
def take (n : Nat) (octets : Octets) : Read (Octets × Octets) :=
  match takeExactly? n octets with
  | some r => .ok r
  | none => .error .unidentified

/-- A block tells its length; one of length zero is the last of its group. Nothing is left of a
block that is too short. -/
def block? : Octets → Option Octets × Octets
  | [] => (none, [])
  | n :: rest => if n = 0 then (none, rest) else (some (rest.take n.toNat), rest.drop n.toNat)

theorem length_rest_of_block? {octets b rest : Octets} (h : block? octets = (some b, rest)) :
    rest.length < octets.length := by
  cases octets with
  | nil => simp [block?] at h
  | cons n r =>
    simp only [block?] at h
    split at h
    · simp at h
    · simp only [Prod.mk.injEq, Option.some.injEq] at h
      simp only [← h.2, List.length_drop, List.length_cons]
      omega

/-- What follows a group of blocks. -/
def afterBlocks (octets : Octets) : Octets :=
  match h : block? octets with
  | (none, rest) => rest
  | (some _, rest) =>
    have := length_rest_of_block? h
    afterBlocks rest
termination_by octets.length

/-- The flags of a screen or of a frame: whether it has colours of its own, and how many bits tell
one of them. -/
def ownColours (flags : UInt8) : Nat :=
  if flags &&& 128 = 0 then 0 else 3 * Nat.pow 2 ((flags &&& 7).toNat + 1)

/-- A frame: the size of the screen with it, its own size, and its points. -/
structure Frame where
  screen : Size
  size : Size
  points : Octets

/-- A frame makes room for itself. One that takes no columns from the first on takes the whole
screen. -/
def frame (screen : Size) (octets : Octets) : Read Frame := do
  let (place, rest) ← take 9 octets
  let number (i : Nat) := ofLittle ((place.drop (2 * i)).take 2)
  let right := number 0 + number 2
  let bottom := number 1 + number 3
  let grown : Size := ⟨max screen.width right, max screen.height bottom⟩
  let _ ← checkPoints grown
  let (_, rest) ← take (ownColours (place[8]?.getD 0)) rest
  if rest.isEmpty then throw .unidentified
  .ok ⟨grown, if right = 0 then grown else ⟨number 2, number 3⟩, rest⟩

def comma : UInt8 := 0x2C

def mark : UInt8 := 0x21

def semicolon : UInt8 := 0x3B

/-- Notes of this kind tell how long to show what follows, and which colour lets the ground
through. -/
def controls : UInt8 := 249

def remarks : UInt8 := 254

def checkControls (block : Octets) : Read Unit :=
  let least := if block.headD 0 &&& 1 = 0 then 3 else 4
  if block.length < least then .error .unidentified else .ok ()

/-- What follows a note. A remark ends with its blocks. Other notes have a block and then more,
even if the first is empty. -/
def afterNote : Octets → Read Octets
  | [] => .error .unidentified
  | kind :: rest => do
    let (block, after) := block? rest
    if kind = remarks then return afterBlocks rest
    if kind = controls then block.forM checkControls
    return afterBlocks after

/-- The first frame. Octets between the notes are passed over. -/
def firstFrame (screen : Size) : (fuel : Nat) → Octets → Read Frame
  | fuel + 1, x :: rest =>
    if x = semicolon then .error .unidentified
    else if x = comma then frame screen rest
    else if x = mark then do firstFrame screen fuel (← afterNote rest)
    else firstFrame screen fuel rest
  | _, _ => .error .unidentified

/-! Points -/

/-- The octets of all blocks that are whole. -/
def joined : Octets → Octets
  | [] => []
  | n :: rest =>
    if rest.length < n.toNat then []
    else rest.take n.toNat ++ joined (rest.drop n.toNat)
termination_by octets => octets.length
decreasing_by
  simp only [List.length_drop, List.length_cons]
  omega

/-- The strings that are known: those of one point each, and the lengths of those that were made
since. -/
structure Strings where
  /-- The code that makes all strings but the first unknown. The next one ends the points. -/
  clear : Nat
  width : Nat
  lengths : Array Nat := #[]
  /-- The length of the last string. -/
  last : Option Nat := none

namespace Strings

def maxWidth : Nat := 12

def maxCodes : Nat := 4096

def ofBits (bits : Nat) : Strings := { clear := Nat.pow 2 bits, width := bits + 1 }

/-- The code of the next string that is made known. -/
def next (s : Strings) : Nat := s.clear + 2 + s.lengths.size

/-- The length of a string that is known. -/
def length? (s : Strings) (code : Nat) : Option Nat :=
  if code < s.clear then some 1 else s.lengths[code - (s.clear + 2)]?

/-- The last string with one more point is made known. Codes grow when there are no more of their
width. -/
def grow (s : Strings) (last : Nat) : Strings :=
  if s.next < maxCodes then
    { s with
      lengths := s.lengths.push (last + 1)
      width := if s.next + 1 = Nat.pow 2 s.width ∧ s.width < maxWidth then s.width + 1 else s.width }
  else s

/-- The length of the string that a code stands for, and what is known after it. The first code
stands for one point, and the code that is made known now may stand for itself. -/
def step? (s : Strings) (code : Nat) : Option (Nat × Strings) :=
  match s.last with
  | none => if code < s.clear then some (1, { s with last := some 1 }) else none
  | some last =>
    (if code = s.next then some (last + 1) else s.length? code).map fun n =>
      (n, { s.grow last with last := some n })

end Strings

/-- The lowest bit comes first. -/
def codeOf (bits : List Bool) : Nat := bits.foldr (fun b n => b.toNat + 2 * n) 0

/-- Whether codes give so many points before they end. -/
def reaches (bits : Nat) : (fuel : Nat) → Strings → (points : Nat) → List Bool → Bool
  | _, _, 0, _ => true
  | 0, _, _, _ => false
  | fuel + 1, s, points, stream =>
    let taken := stream.take s.width
    if taken.length < s.width then false
    else
      let code := codeOf taken
      let stream := stream.drop s.width
      if code = s.clear then reaches bits fuel (.ofBits bits) points stream
      else if code = s.clear + 1 then false
      else match s.step? code with
        | none => false
        | some (n, s) => reaches bits fuel s (points - n) stream

/-- The octet before the points tells the bits of one of them. -/
def checkFrame (f : Frame) : Read Unit := do
  let bits := (f.points.headD 0).toNat
  if f.size.width = 0 ∨ f.size.height = 0 then throw .value
  if Strings.maxWidth < bits then throw .truncated
  let stream := (joined (f.points.drop 1)).flatMap Compression.bitsOf
  if !reaches bits stream.length (.ofBits bits) (f.size.width * f.size.height) stream then
    throw .truncated

/-- The size of an image whose first frame is whole. -/
def read (octets : Octets) : Read Size := do
  let (head, rest) ← take 13 octets
  let screen : Size := ⟨ofLittle ((head.drop 6).take 2), ofLittle ((head.drop 8).take 2)⟩
  let (_, rest) ← take (ownColours (head[10]?.getD 0)) rest
  let f ← firstFrame screen rest.length rest
  if f.screen.width = 0 ∨ f.screen.height = 0 then throw .unidentified
  checkFrame f
  .ok f.screen

end Gif
end Image
end RemoteScreen
