/-! Prefix codes: shorter codes come first, and among codes of one length those of smaller
symbols. The lengths alone tell such a code. -/
namespace RemoteScreen
namespace Compression

structure Code where
  /-- How many codes there are of length one, two, and so on; the last number is not zero. -/
  counts : List Nat
  /-- The symbols in the order of their codes. -/
  symbols : Array Nat
  deriving DecidableEq, Repr

namespace Code

def maxLength : Nat := 15

/-- The code in which the symbol `i` has the length `lengths[i]`, or none if that is zero. -/
def ofLengths (lengths : List Nat) : Code where
  counts :=
    let counts := (List.range maxLength).map fun n => lengths.count (n + 1)
    (counts.reverse.dropWhile (· == 0)).reverse
  symbols := ((List.range maxLength).flatMap fun n => lengths.zipIdx.filterMap fun e =>
    if e.1 = n + 1 then some e.2 else none).toArray

/-- How much room there is left after codes of growing lengths, if they do not take more than there
is. One code of length `n` takes the `n`-th half. -/
def room? : (counts : List Nat) → (left : Nat) → Option Nat
  | [], left => some left
  | n :: ns, left => if n ≤ 2 * left then room? ns (2 * left - n) else none

/-- A code that leaves no room is good, and one without codes. Where `single` codes are allowed,
so is one that has a single code of length one. -/
def isGood (c : Code) (single : Bool) : Bool :=
  c.counts.isEmpty ||
    (match room? c.counts 1 with
    | some left => left == 0 || (single && c.counts.length == 1)
    | none => false)

/-- Reads a code bit by bit. `code` is what was read so far, `first` the first code of this length
and `index` the place of its symbol. -/
def symbolFrom? (c : Code) : (counts : List Nat) → (code first index : Nat) → List Bool →
    Option (Option Nat × List Bool)
  | [], _, _, _, bits => some (none, bits)
  | _ :: _, _, _, _, [] => none
  | n :: ns, code, first, index, b :: bits =>
    let code := 2 * code + b.toNat
    let first := 2 * first
    if code < first + n then some (c.symbols[index + (code - first)]?, bits)
    else symbolFrom? c ns code (first + n) (index + n) bits

/-- The next symbol, if the bits begin with a code, and what follows it; nothing if the bits end too
early. One bit tells that a code without codes has none. -/
def symbol? (c : Code) (bits : List Bool) : Option (Option Nat × List Bool) :=
  if c.counts.isEmpty then bits.tail?.map fun bits => (none, bits)
  else symbolFrom? c c.counts 0 0 0 bits

end Code
end Compression
end RemoteScreen
