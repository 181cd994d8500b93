import RemoteScreen.Compression.Checksum
import RemoteScreen.Compression.Inflate

/-! Compressed octets inside a container, with a header before them and a checksum after them.
Octets that end too early give what they hold. -/
namespace RemoteScreen
namespace Compression

open Reader

abbrev Octets := List UInt8

/-- What octets give, and why reading stopped before their end, if it did. -/
def outcome (read : Reader Unit) (octets : Octets) : Octets × Option Stop :=
  match read.run { bits := octets.flatMap bitsOf } with
  | .ok _ s => (s.out.toList, none)
  | .error e s => (s.out.toList, some e)

/-- What octets give, unless there is a fault in them. -/
def gained (read : Reader Unit) (octets : Octets) : Except Fault Octets :=
  match outcome read octets with
  | (_, some (.fault f)) => .error f
  | (out, _) => .ok out

def allBlocks : Reader Unit := do blocks (← get).bits.length

/-- Octets in no container. -/
def bare (octets : Octets) : Except Fault Octets := gained allBlocks octets

def method : Nat := 8

/-- A header of two octets that is divisible by 31. It tells the method, the window and whether a
dictionary is needed, and there is none. -/
def shortHeader : Reader Unit := do
  let first ← number 8
  let second ← number 8
  if (first * 256 + second) % 31 ≠ 0 then stop .header
  if first % 16 ≠ method then stop .method
  if 7 < first / 16 then stop .window
  if second.testBit 5 then
    let _ ← number 32
    stop .dictionary

def swap32 (n : Nat) : Nat :=
  n % 256 * 0x1000000 + n / 256 % 256 * 0x10000 + n / 0x10000 % 256 * 256 + n / 0x1000000

/-- Blocks with a short header, and the running sums of what they give at the end. -/
def framedBlocks : Reader Unit := do
  shortHeader
  allBlocks
  align
  if swap32 (← number 32) ≠ runningSums (← get).out.toList then stop .sum

def framed (octets : Octets) : Except Fault Octets := gained framedBlocks octets

/-- Leaves out octets up to a zero. -/
def skipText : (fuel : Nat) → Reader Unit
  | 0 => pure ()
  | fuel + 1 => do if (← number 8) ≠ 0 then skipText fuel

def skip : (octets : Nat) → Reader Unit
  | 0 => pure ()
  | octets + 1 => do
    let _ ← number 8
    skip octets

/-- How many octets are left. -/
def left : Reader Nat := do pure ((← get).bits.length / 8)

/-- The header of a file: its flags tell what it holds. -/
def fileHeader (octets : Octets) : Reader Unit := do
  if (← number 16) ≠ 0x8B1F then stop .header
  let flags ← number 16
  if flags % 256 ≠ method then stop .method
  if 0x2000 ≤ flags then stop .flags
  skip 6
  if flags.testBit 10 then skip (← number 16)
  if flags.testBit 11 then skipText octets.length
  if flags.testBit 12 then skipText octets.length
  if flags.testBit 9 then
    let sum := remainder (octets.take (octets.length - (← left)))
    if (← number 16) ≠ sum % 65536 then stop .headerSum

/-- A compressed file, with the remainder and the number of its octets at the end. -/
def file (octets : Octets) : Except Fault Octets :=
  gained (do
    fileHeader octets
    allBlocks
    align
    let out := (← get).out
    if (← number 32) ≠ remainder out.toList then stop .sum
    if (← number 32) ≠ out.size % 0x100000000 then stop .length) octets

/-- Octets with a short header, or else in no container. -/
def framedOrBare (octets : Octets) : Except Fault Octets :=
  match framed octets with
  | .ok out => .ok out
  | .error _ => bare octets

/-- The ways in which a body may come, by name. -/
def ways : List (String × (Octets → Except Fault Octets)) := [
  ("identity", .ok), ("gzip", file), ("deflate", framedOrBare)]

/-- Undoes the ways in which octets were treated, the last first. Ways without a name are passed
over. -/
def undo (names : List String) (octets : Octets) : Except Fault Octets :=
  let undone := (names.filterMap fun name => ways.lookup name).reverse
  undone.foldlM (fun octets way => way octets) octets

end Compression
end RemoteScreen
