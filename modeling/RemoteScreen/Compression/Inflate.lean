import RemoteScreen.Compression.Code

/-! Compressed octets: blocks of symbols that stand for an octet or for a piece of what came
before. -/
namespace RemoteScreen
namespace Compression

/-- What can be wrong with compressed octets. -/
inductive Fault where
  | header | method | window | flags | headerSum | dictionary
  | blockKind | storedLength | tooManySymbols | lengthsCode | repetition | noEnd | literalCode
  | distanceCode | literal | distance | tooFar | sum | length
  deriving DecidableEq, Repr

namespace Fault

def text : Fault → String
  | header => "incorrect header check"
  | method => "unknown compression method"
  | window => "invalid window size"
  | flags => "unknown header flags set"
  | headerSum => "header crc mismatch"
  | dictionary => ""
  | blockKind => "invalid block type"
  | storedLength => "invalid stored block lengths"
  | tooManySymbols => "too many length or distance symbols"
  | lengthsCode => "invalid code lengths set"
  | repetition => "invalid bit length repeat"
  | noEnd => "invalid code -- missing end-of-block"
  | literalCode => "invalid literal/lengths set"
  | distanceCode => "invalid distances set"
  | literal => "invalid literal/length code"
  | distance => "invalid distance code"
  | tooFar => "invalid distance too far back"
  | sum => "incorrect data check"
  | length => "incorrect length check"

def message (f : Fault) : String :=
  if f = dictionary then "Error 2 while decompressing data"
  else s!"Error -3 while decompressing data: {f.text}"

end Fault

/-- Reading stops where the octets end, or at a fault. -/
inductive Stop where
  | short
  | fault (f : Fault)
  deriving DecidableEq, Repr

/-- The bits still to be read, and the octets that were gained from those before. -/
structure Stream where
  bits : List Bool
  out : Array UInt8 := #[]

/-- Reads from a stream. What was gained stays where reading stops. -/
abbrev Reader := EStateM Stop Stream

/-- The bits of an octet, the lowest first. -/
def bitsOf (octet : UInt8) : List Bool := (List.range 8).map fun i => octet.toNat.testBit i

namespace Reader

def stop {α : Type} (f : Fault) : Reader α := throw (.fault f)

def bit : Reader Nat := do
  let s ← get
  match s.bits with
  | [] => throw .short
  | b :: bits => do
    set { s with bits }
    pure b.toNat

/-- A number of some bits, the lowest first. -/
def number : (width : Nat) → Reader Nat
  | 0 => pure 0
  | width + 1 => do
    let low ← bit
    let high ← number width
    pure (low + 2 * high)

def symbol (c : Code) : Reader (Option Nat) := do
  let s ← get
  match c.symbol? s.bits with
  | none => throw .short
  | some (x, bits) => do
    set { s with bits }
    pure x

def put (octet : UInt8) : Reader Unit := modify fun s => { s with out := s.out.push octet }

/-- Leaves out the rest of an octet that was begun. -/
def align : Reader Unit := modify fun s => { s with bits := s.bits.drop (s.bits.length % 8) }

/-- Repeats the octets that stand some distance back, one after the other. -/
def repeatFrom (distance : Nat) : (length : Nat) → Reader Unit
  | 0 => pure ()
  | length + 1 => do
    let s ← get
    put (s.out[s.out.size - distance]?.getD 0)
    repeatFrom distance length

def stored : (length : Nat) → Reader Unit
  | 0 => pure ()
  | length + 1 => do
    put (UInt8.ofNat (← number 8))
    stored length

end Reader

open Reader

/-- The symbol that ends a block. Those below it are octets, those above it lengths. -/
def endSymbol : Nat := 256

/-- The shortest length of each symbol past the end, and how many bits tell which length it is. -/
def lengthRows : Array (Nat × Nat) := #[
  (3, 0), (4, 0), (5, 0), (6, 0), (7, 0), (8, 0), (9, 0), (10, 0), (11, 1), (13, 1), (15, 1),
  (17, 1), (19, 2), (23, 2), (27, 2), (31, 2), (35, 3), (43, 3), (51, 3), (59, 3), (67, 4), (83, 4),
  (99, 4), (115, 4), (131, 5), (163, 5), (195, 5), (227, 5), (258, 0)]

/-- The same for distances. -/
def distanceRows : Array (Nat × Nat) := #[
  (1, 0), (2, 0), (3, 0), (4, 0), (5, 1), (7, 1), (9, 2), (13, 2), (17, 3), (25, 3), (33, 4),
  (49, 4), (65, 5), (97, 5), (129, 6), (193, 6), (257, 7), (385, 7), (513, 8), (769, 8), (1025, 9),
  (1537, 9), (2049, 10), (3073, 10), (4097, 11), (6145, 11), (8193, 12), (12289, 12), (16385, 13),
  (24577, 13)]

/-- The number that a row stands for, with the bits that follow. -/
def rowNumber (row : Nat × Nat) : Reader Nat := do pure (row.1 + (← number row.2))

/-- A piece of what came before: its length is known, its distance follows. -/
def piece (distances : Code) (length : Nat) : Reader Unit := do
  match (← symbol distances).bind (distanceRows[·]?) with
  | none => stop .distance
  | some row => do
    let distance ← rowNumber row
    if (← get).out.size < distance then stop .tooFar
    repeatFrom distance length

/-- The symbols of a block up to its end. -/
def symbols (literals distances : Code) : (fuel : Nat) → Reader Unit
  | 0 => pure ()
  | fuel + 1 => do
    match ← symbol literals with
    | none => stop .literal
    | some x =>
      if x = endSymbol then pure ()
      else if x < endSymbol then do
        put (UInt8.ofNat x)
        symbols literals distances fuel
      else
        match lengthRows[x - (endSymbol + 1)]? with
        | none => stop .literal
        | some row => do
          piece distances (← rowNumber row)
          symbols literals distances fuel

/-- The code that serves where a block brings none of its own. -/
def commonLiterals : Code :=
  .ofLengths (List.replicate 144 8 ++ List.replicate 112 9 ++ List.replicate 24 7 ++
    List.replicate 8 8)

def commonDistances : Code := .ofLengths (List.replicate 32 5)

/-- The order in which the lengths of the code for lengths come. -/
def lengthOrder : List Nat := [16, 17, 18, 0, 8, 7, 9, 6, 10, 5, 11, 4, 12, 3, 13, 2, 14, 1, 15]

def numbers (width : Nat) : (count : Nat) → Reader (List Nat)
  | 0 => pure []
  | count + 1 => do
    let n ← number width
    pure (n :: (← numbers width count))

/-- How often a symbol past the lengths repeats, and what. -/
def repetition (x : Nat) (last : Option Nat) : Reader (Nat × Nat) := do
  if x = 16 then
    let n ← number 2
    match last with
    | some l => pure (3 + n, l)
    | none => stop .repetition
  else if x = 17 then pure (3 + (← number 3), 0)
  else pure (11 + (← number 7), 0)

/-- The lengths of the codes of a block, the last first. What is no symbol counts as zero. -/
def lengths (c : Code) (wanted : Nat) : (fuel : Nat) → List Nat → Reader (List Nat)
  | 0, done => pure done
  | fuel + 1, done =>
    if wanted ≤ done.length then pure done
    else do
      let x := (← symbol c).getD 0
      if x < 16 then lengths c wanted fuel (x :: done)
      else
        let (n, l) ← repetition x done.head?
        if wanted < done.length + n then stop .repetition
        lengths c wanted fuel (List.replicate n l ++ done)

/-- The codes that a block brings: for literals and lengths, and for distances. -/
def ownCodes : Reader (Code × Code) := do
  let literals := (← number 5) + 257
  let distances := (← number 5) + 1
  let count := (← number 4) + 4
  if 286 < literals ∨ 30 < distances then stop .tooManySymbols
  let given ← numbers 3 count
  let lengthsCode := Code.ofLengths ((List.range 19).map fun x =>
    ((lengthOrder.zip given).lookup x).getD 0)
  if !lengthsCode.isGood false then stop .lengthsCode
  let all := (← lengths lengthsCode (literals + distances) (literals + distances) []).reverse
  if all[endSymbol]?.getD 0 = 0 then stop .noEnd
  let literalCode := Code.ofLengths (all.take literals)
  if !literalCode.isGood true then stop .literalCode
  let distanceCode := Code.ofLengths (all.drop literals)
  if !distanceCode.isGood true then stop .distanceCode
  pure (literalCode, distanceCode)

def storedBlock : Reader Unit := do
  align
  let length ← number 16
  let complement ← number 16
  if length + complement ≠ 0xFFFF then stop .storedLength
  stored length

def coded (codes : Code × Code) : Reader Unit := do
  symbols codes.1 codes.2 (← get).bits.length

/-- Blocks up to the one that says that it is the last. -/
def blocks : (fuel : Nat) → Reader Unit
  | 0 => pure ()
  | fuel + 1 => do
    let last ← bit
    match ← number 2 with
    | 0 => storedBlock
    | 1 => coded (commonLiterals, commonDistances)
    | 2 => do coded (← ownCodes)
    | _ => stop .blockKind
    if last = 0 then blocks fuel

end Compression
end RemoteScreen
