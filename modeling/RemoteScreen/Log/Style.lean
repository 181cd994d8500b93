import RemoteScreen.Number.Places
import RemoteScreen.Text.Digit
import RemoteScreen.Text.Quoted
import RemoteScreen.Text.Word

/-! Log line styles: texts in which `%(field)` and a conversion stand for a field of the record. -/
namespace RemoteScreen
namespace Log

/-- What a line can tell about a record. -/
inductive FieldValue where
  | text (s : String)
  | number (n : Int)

/-- A field with its flags, width, precision and conversion. -/
structure Directive where
  field : String
  flags : List Char
  width : Nat
  precision : Option Nat
  conversion : Char
  deriving DecidableEq, Repr

inductive Piece where
  | literal (c : Char)
  | directive (d : Directive)
  deriving DecidableEq, Repr

def isFlag (c : Char) : Bool := "#0+ -".toList.contains c

def number (ds : List Char) : Nat := ds.foldl (fun n c => n * 10 + (c.toNat - 48)) 0

/-! Reading a style -/

/-- The name of a field in round brackets. -/
def field? : List Char → Option String × List Char
  | '(' :: cs =>
    match cs.span (· != ')') with
    | (name, ')' :: rest) => (some (String.ofList name), rest)
    | _ => (none, '(' :: cs)
  | cs => (none, cs)

/-- The digits after a point. A point without digits counts as zero. -/
def precision? : List Char → Option Nat × List Char
  | '.' :: cs =>
    let (ds, rest) := cs.span Char.isDigit
    (some (number ds), rest)
  | cs => (none, cs)

/-- One letter may tell how wide a number is; it does not count. -/
def skipWideness : List Char → List Char
  | 'h' :: cs | 'l' :: cs | 'L' :: cs => cs
  | cs => cs

def conversions : List Char := "diouxXeEfFgGcrsa".toList

/-- What begins after a percent sign, and what follows it: a field, or the percent sign itself. -/
def piece? (cs : List Char) : Option (Piece × List Char) :=
  let (field, rest) := field? cs
  let (flags, rest) := rest.span isFlag
  let (width, rest) := rest.span Char.isDigit
  let (precision, rest) := precision? rest
  match field, skipWideness rest with
  | _, '%' :: rest => some (.literal '%', rest)
  | some name, c :: rest =>
    if conversions.contains c then some (.directive ⟨name, flags, number width, precision, c⟩, rest)
    else none
  | _, _ => none

/-- The pieces of a style. A percent sign that begins nothing stands for itself. -/
def pieces : (fuel : Nat) → List Char → List Piece
  | 0, _ => []
  | _, [] => []
  | fuel + 1, '%' :: cs =>
    match piece? cs with
    | some (p, rest) => p :: pieces fuel rest
    | none => .literal '%' :: pieces fuel cs
  | fuel + 1, c :: cs => .literal c :: pieces fuel cs

/-! Checking a style. The check is wider than reading in some ways, and narrower in others. -/

/-- A star, or digits of any script. -/
def skipCount? : List Char → Option (List Char)
  | '*' :: cs => some cs
  | c :: cs => if Text.isDecimalDigit c then some (cs.dropWhile Text.isDecimalDigit) else none
  | [] => none

def skipCount (cs : List Char) : List Char := (skipCount? cs).getD cs

def skipPrecision : List Char → List Char
  | '.' :: cs => (skipCount? cs).getD ('.' :: cs)
  | cs => cs

/-- The letters of conversions in either case, letters that have one of them as their capital or
small form, and the percent sign. -/
def looksConverted (c : Char) : Bool :=
  "diouxefgcrsa%".toList.contains c.toLower || "İıſ".toList.contains c

/-- Whether a text begins like a field, from the character after its percent sign on. -/
def looksLikeField : List Char → Bool
  | '(' :: cs =>
    match cs.span Text.isWordChar with
    | (_ :: _, ')' :: rest) =>
      (skipPrecision (skipCount (rest.dropWhile isFlag))).head?.any looksConverted
    | _ => false
  | _ => false

/-- Whether what looks like a field begins anywhere in a text. -/
def hasField : List Char → Bool
  | [] => false
  | c :: cs => (c == '%' && looksLikeField cs) || hasField cs

/-- How a line shows a record: its style, and the text that stands for the time. -/
structure Style where
  format : String
  date : String
  deriving DecidableEq, Repr

namespace Style

def plainFormat : String := "%(message)s"

/-- An empty format shows the message alone. -/
def effective (s : Style) : String := if s.format = "" then plainFormat else s.format

/-- A style shows at least one field. -/
def isValid (s : Style) : Bool := hasField s.effective.toList

end Style

def pad (d : Directive) (cs : List Char) : List Char :=
  let fill := List.replicate (d.width - cs.length) ' '
  if d.flags.contains '-' then cs ++ fill else fill ++ cs

def signChars (d : Directive) (n : Int) : List Char :=
  if n < 0 then ['-']
  else if d.flags.contains '+' then ['+']
  else if d.flags.contains ' ' then [' ']
  else []

/-- Digits with a sign and whatever stands before them; the flag `0` fills with zeros in between. -/
def showDigits (d : Directive) (n : Int) (mark ds : List Char) : List Char :=
  let ds := List.replicate (d.precision.getD 1 - ds.length) '0' ++ ds
  let before := signChars d n ++ (if d.flags.contains '#' then mark else [])
  if d.flags.contains '0' && !d.flags.contains '-' then
    before ++ List.replicate (d.width - before.length - ds.length) '0' ++ ds
  else pad d (before ++ ds)

def clip (d : Directive) (cs : List Char) : List Char :=
  match d.precision with
  | some n => cs.take n
  | none => cs

/-- A number as a float would show it. -/
def showPlaces (d : Directive) (n : Int) : List Char :=
  let m := ((Number.truncate? (Number.ofInt n)).getD n).natAbs
  let digits := d.precision.getD 6
  let point := d.flags.contains '#'
  let chars :=
    if d.conversion.toLower = 'f' then Number.positional digits point m
    else if d.conversion.toLower = 'e' then Number.exponential digits point m
    else Number.plainer digits point m
  showDigits { d with precision := none } n []
    (if d.conversion.isUpper then chars.map Char.toUpper else chars)

def showNumber (d : Directive) (n : Int) : List Char :=
  let ds (base : Nat) := Nat.toDigits base n.natAbs
  match d.conversion with
  | 'x' => showDigits d n ['0', 'x'] (ds 16)
  | 'X' => showDigits d n ['0', 'X'] ((ds 16).map Char.toUpper)
  | 'o' => showDigits d n ['0', 'o'] (ds 8)
  | 'c' => pad d [Char.ofNat n.natAbs]
  | c =>
    if "sra".toList.contains c then pad d (clip d (toString n).toList)
    else if "eEfFgG".toList.contains c then showPlaces d n
    else showDigits d n [] (ds 10)

/-- Only what is shown as a text is cut off at the precision; one character is not. -/
def showText (d : Directive) (s : String) : List Char :=
  match d.conversion with
  | 'r' => clip d (Text.quote s).toList
  | 'a' => clip d (Text.quoteAscii s).toList
  | 'c' => s.toList
  | _ => clip d s.toList

def showField (d : Directive) : FieldValue → List Char
  | .number n => showNumber d n
  | .text s => pad d (showText d s)

/-- The line for a record, given what its fields hold. -/
def Style.line (s : Style) (field : String → FieldValue) : String :=
  let cs := s.effective.toList
  String.ofList ((pieces cs.length cs).flatMap fun
    | .literal c => [c]
    | .directive d => showField d (field d.field))

end Log
end RemoteScreen
