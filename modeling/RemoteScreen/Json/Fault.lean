import RemoteScreen.Text.Utf8

/-! What can be wrong with the spelling of a JSON document, and where in it. -/
namespace RemoteScreen
namespace Json

open Text.Utf8 (Octets)

inductive Cause where
  | valueEnds | listEnds | objectEnds | textEnds
  | expectedValue | expectedWord | expectedListMark | expectedObjectMark | expectedColon
  | badNumber | numberTooLong
  | trailingComma | keyNotText | tooDeep
  | controlCharacter | badEscape | loneSurrogate | brokenPair | badCodePoint
  | trailing
  deriving DecidableEq, Repr

def Cause.message : Cause → String
  | .valueEnds => "EOF while parsing a value"
  | .listEnds => "EOF while parsing a list"
  | .objectEnds => "EOF while parsing an object"
  | .textEnds => "EOF while parsing a string"
  | .expectedValue => "expected value"
  | .expectedWord => "expected ident"
  | .expectedListMark => "expected `,` or `]`"
  | .expectedObjectMark => "expected `,` or `\x7d`"
  | .expectedColon => "expected `:`"
  | .badNumber => "invalid number"
  | .numberTooLong => "number out of range"
  | .trailingComma => "trailing comma"
  | .keyNotText => "key must be a string"
  | .tooDeep => "recursion limit exceeded"
  | .controlCharacter => "control character (\\u0000-\\u001F) found while parsing a string"
  | .badEscape => "invalid escape"
  | .loneSurrogate => "lone leading surrogate in hex escape"
  | .brokenPair => "unexpected end of hex escape"
  | .badCodePoint => "invalid unicode code point"
  | .trailing => "trailing characters"

/-- A cause, and how many octets stand between the faulty place and the end of the document. -/
structure Fault where
  cause : Cause
  left : Nat
  deriving DecidableEq, Repr

/-- A line, counted from one, and a column within it. -/
structure Place where
  line : Nat
  column : Nat
  deriving DecidableEq, Repr

/-- The place reached when the given octets have been passed. -/
def Place.after (passed : Octets) : Place :=
  { line := passed.count 10 + 1
    column := (passed.reverse.takeWhile (· != 10)).length }

/-- The faulty octet itself counts as passed; at the end there is none. -/
def Fault.place (input : Octets) (f : Fault) : Place :=
  .after (input.take (input.length - f.left + 1))

def Fault.message (input : Octets) (f : Fault) : String :=
  let p := f.place input
  s!"{f.cause.message} at line {p.line} column {p.column}"

end Json
end RemoteScreen
