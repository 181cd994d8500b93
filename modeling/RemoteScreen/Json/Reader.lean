import RemoteScreen.Json.Basic
import RemoteScreen.Json.Fault

/-! Reading JSON from octets. Every reader takes what is left of the document and gives a result
with what is left after it, or the first fault. `NaN` and the infinities are values too. Every turn
of a loop takes an octet away, so the loops are bounded by a `limit` above the number of octets
left. -/
namespace RemoteScreen
namespace Json

open Text
open Text.Utf8 (Octets)

namespace Reader

def refuse {α : Type} (cause : Cause) (s : Octets) : Except Fault (α × Octets) :=
  .error ⟨cause, s.length⟩

def isSpace (b : UInt8) : Bool := b == 0x20 || b == 0x09 || b == 0x0A || b == 0x0D

def skipSpace (s : Octets) : Octets := s.dropWhile isSpace

@[simp] theorem skipSpace_nil : skipSpace [] = [] := rfl

def isDigit (b : UInt8) : Bool := 0x30 ≤ b && b ≤ 0x39

/-- The characters of octets below 128. -/
def asciiText (s : Octets) : String := String.ofList (s.map fun b => Char.ofNat b.toNat)

/-! Words and numbers -/

def word (value : Json) : List Char → Octets → Except Fault (Json × Octets)
  | [], s => .ok (value, s)
  | _ :: _, [] => refuse .valueEnds []
  | c :: cs, b :: s =>
    if b.toNat = c.toNat then word value cs s else refuse .expectedWord (b :: s)

/-- The longest integer part that a number may have. -/
def maxDigits : Nat := 4300

/-- At least one digit, and all that follow it. -/
def digits (s : Octets) : Except Fault (Octets × Octets) :=
  match s with
  | [] => refuse .valueEnds []
  | b :: _ => if isDigit b then .ok (s.span isDigit) else refuse .badNumber s

def fraction (s : Octets) : Except Fault (Octets × Octets) :=
  match s with
  | 0x2E :: t => do
    let (ds, rest) ← digits t
    .ok (0x2E :: ds, rest)
  | _ => .ok ([], s)

def exponentSign : Octets → Octets × Octets
  | 0x2B :: t => ([0x2B], t)
  | 0x2D :: t => ([0x2D], t)
  | t => ([], t)

def exponent (s : Octets) : Except Fault (Octets × Octets) :=
  match s with
  | [] => .ok ([], [])
  | e :: t =>
    if e = 0x65 ∨ e = 0x45 then do
      let (sign, u) := exponentSign t
      let (ds, rest) ← digits u
      .ok (e :: sign ++ ds, rest)
    else .ok ([], s)

/-- A number without its sign, from its first digit on. -/
def unsigned (sign : Octets) (s : Octets) : Except Fault (Json × Octets) := do
  let (whole, rest) ← digits s
  match whole with
  | 0x30 :: (_ :: _) => refuse .badNumber s.tail
  | _ =>
    if whole.length > maxDigits then .error ⟨.numberTooLong, s.length - (maxDigits + 1)⟩
    else
      let (frac, rest) ← fraction rest
      let (exp, rest) ← exponent rest
      .ok (.number (asciiText (sign ++ whole ++ frac ++ exp)), rest)

def negative (s : Octets) : Except Fault (Json × Octets) :=
  match s with
  | 0x49 :: t => word (.number "-Infinity") "nfinity".toList t
  | _ => unsigned [0x2D] s

/-! Texts -/

def hexValue? (b : UInt8) : Option Nat :=
  if 0x30 ≤ b ∧ b ≤ 0x39 then some (b.toNat - 0x30)
  else if 0x41 ≤ b ∧ b ≤ 0x46 then some (b.toNat - 0x37)
  else if 0x61 ≤ b ∧ b ≤ 0x66 then some (b.toNat - 0x57)
  else none

def hexDigit (b : UInt8) (rest : Octets) : Except Fault Nat :=
  match hexValue? b with
  | some v => .ok v
  | none => .error ⟨.badEscape, rest.length + 1⟩

def hexFour : Octets → Except Fault (Nat × Octets)
  | a :: b :: c :: d :: rest => do
    let a ← hexDigit a (b :: c :: d :: rest)
    let b ← hexDigit b (c :: d :: rest)
    let c ← hexDigit c (d :: rest)
    let d ← hexDigit d rest
    .ok (((a * 16 + b) * 16 + c) * 16 + d, rest)
  | _ => refuse .textEnds []

def isLow (n : Nat) : Bool := 0xDC00 ≤ n && n ≤ 0xDFFF

def isHigh (n : Nat) : Bool := 0xD800 ≤ n && n ≤ 0xDBFF

/-- The second half of a surrogate pair. -/
def pairWith (high : Nat) : Octets → Except Fault (Octets × Octets)
  | 0x5C :: 0x75 :: rest => do
    let (low, rest) ← hexFour rest
    if isLow low then
      .ok (String.utf8EncodeChar
        (Char.ofNat (0x10000 + (high - 0xD800) * 1024 + (low - 0xDC00))), rest)
    else .error ⟨.loneSurrogate, rest.length + 1⟩
  | 0x5C :: b :: rest => refuse .brokenPair (b :: rest)
  | [0x5C] => refuse .textEnds []
  | [] => refuse .textEnds []
  | s => refuse .brokenPair s

def codeUnit (s : Octets) : Except Fault (Octets × Octets) := do
  let (unit, rest) ← hexFour s
  if isLow unit then .error ⟨.loneSurrogate, rest.length + 1⟩
  else if isHigh unit then pairWith unit rest
  else .ok (String.utf8EncodeChar (Char.ofNat unit), rest)

/-- What a backslash and the octets after it stand for. -/
def escape : Octets → Except Fault (Octets × Octets)
  | [] => refuse .textEnds []
  | b :: rest =>
    if b = 0x22 ∨ b = 0x5C ∨ b = 0x2F then .ok ([b], rest)
    else if b = 0x62 then .ok ([0x08], rest)
    else if b = 0x66 then .ok ([0x0C], rest)
    else if b = 0x6E then .ok ([0x0A], rest)
    else if b = 0x72 then .ok ([0x0D], rest)
    else if b = 0x74 then .ok ([0x09], rest)
    else if b = 0x75 then codeUnit rest
    else refuse .badEscape (b :: rest)

/-- The octets of a text up to its closing quote, with the escapes resolved. -/
def content : (limit : Nat) → Octets → Except Fault (Octets × Octets)
  | 0, _ => refuse .textEnds []
  | _ + 1, [] => refuse .textEnds []
  | limit + 1, b :: s =>
    if b = 0x22 then .ok ([], s)
    else if b = 0x5C then do
      let (piece, rest) ← escape s
      let (more, rest) ← content limit rest
      .ok (piece ++ more, rest)
    else if b < 0x20 then refuse .controlCharacter (b :: s)
    else do
      let (more, rest) ← content limit s
      .ok (b :: more, rest)

/-- A text after its opening quote. The octets are checked once the closing quote is found. -/
def text (limit : Nat) (s : Octets) : Except Fault (String × Octets) := do
  let (raw, rest) ← content limit s
  match Utf8.decode raw with
  | .ok cs => .ok (String.ofList cs, rest)
  | .error unread => .error ⟨.badCodePoint, s.length - (raw.length - unread)⟩

/-! Lists, objects and documents -/

section

variable (element : Octets → Except Fault (Json × Octets))

/-- The items of a list, from the first octet of one of them. -/
def items : (limit : Nat) → Octets → Except Fault (List Json × Octets)
  | 0, _ => refuse .listEnds []
  | limit + 1, s => do
    let (x, rest) ← element s
    match skipSpace rest with
    | [] => refuse .listEnds []
    | b :: rest =>
      if b = 0x5D then .ok ([x], rest)
      else if b = 0x2C then
        match skipSpace rest with
        | 0x5D :: t => refuse .trailingComma (0x5D :: t)
        | rest => do
          let (xs, rest) ← items limit rest
          .ok (x :: xs, rest)
      else refuse .expectedListMark (b :: rest)

def list (limit : Nat) (s : Octets) : Except Fault (Json × Octets) :=
  match skipSpace s with
  | [] => refuse .listEnds []
  | 0x5D :: rest => .ok (.list [], rest)
  | s => do
    let (xs, rest) ← items element limit s
    .ok (.list xs, rest)

/-- One entry of an object, from the first octet of its key. -/
def entry (limit : Nat) (s : Octets) : Except Fault ((String × Json) × Octets) :=
  match s with
  | 0x22 :: s => do
    let (key, rest) ← text limit s
    match skipSpace rest with
    | [] => refuse .objectEnds []
    | 0x3A :: rest => do
      let (x, rest) ← element (skipSpace rest)
      .ok ((key, x), rest)
    | s => refuse .expectedColon s
  | s => refuse .keyNotText s

/-- The entries of an object, from the first octet of a key. -/
def entries : (limit : Nat) → Octets → Except Fault (List (String × Json) × Octets)
  | 0, _ => refuse .objectEnds []
  | limit + 1, s => do
    let (e, rest) ← entry element limit s
    match skipSpace rest with
    | [] => refuse .objectEnds []
    | b :: rest =>
      if b = 0x7D then .ok ([e], rest)
      else if b = 0x2C then
        match skipSpace rest with
        | [] => refuse .valueEnds []
        | 0x7D :: t => refuse .trailingComma (0x7D :: t)
        | rest => do
          let (es, rest) ← entries limit rest
          .ok (e :: es, rest)
      else refuse .expectedObjectMark (b :: rest)

def object (limit : Nat) (s : Octets) : Except Fault (Json × Octets) :=
  match skipSpace s with
  | [] => refuse .objectEnds []
  | 0x7D :: rest => .ok (.object [], rest)
  | s => do
    let (es, rest) ← entries element limit s
    .ok (.object es, rest)

/-- A value, when `element` reads what stands inside a list or an object. -/
def valueWith (limit : Nat) (s : Octets) : Except Fault (Json × Octets) :=
  match skipSpace s with
  | [] => refuse .valueEnds []
  | b :: s =>
    if b = 0x22 then do
      let (t, rest) ← text limit s
      .ok (.text t, rest)
    else if b = 0x5B then list element limit s
    else if b = 0x7B then object element limit s
    else if b = 0x74 then word (.bool true) "rue".toList s
    else if b = 0x66 then word (.bool false) "alse".toList s
    else if b = 0x6E then word .null "ull".toList s
    else if b = 0x4E then word (.number "NaN") "aN".toList s
    else if b = 0x49 then word (.number "Infinity") "nfinity".toList s
    else if b = 0x2D then negative s
    else if isDigit b then unsigned [] (b :: s)
    else refuse .expectedValue (b :: s)

end

/-- Stands for an element that is nested too deeply to be read. -/
def refuseDepth (s : Octets) : Except Fault (Json × Octets) :=
  match s with
  | [] => refuse .valueEnds []
  | _ => refuse .tooDeep s

/-- A value with at most `room` containers around any of its elements. -/
def value (limit : Nat) : (room : Nat) → Octets → Except Fault (Json × Octets)
  | 0 => valueWith refuseDepth limit
  | room + 1 => valueWith (value limit room) limit

end Reader

/-- A whole document: one value, with white space around it. -/
def read (room : Nat) (s : Octets) : Except Fault Json := do
  let (v, rest) ← Reader.value (s.length + 1) room s
  match Reader.skipSpace rest with
  | [] => .ok v
  | s => .error ⟨.trailing, s.length⟩

end Json
end RemoteScreen
