import RemoteScreen.Text.Printable

/-! Quoted texts: how a text is shown inside a message or a log line. -/
namespace RemoteScreen
namespace Text

def hexChar (n : Nat) : Char := if n < 10 then Char.ofNat (48 + n) else Char.ofNat (87 + n)

/-- The lowest `width` hexadecimal digits of a number. -/
def hexDigits (n : Nat) : (width : Nat) → List Char
  | 0 => []
  | width + 1 => hexDigits (n / 16) width ++ [hexChar (n % 16)]

/-- The double quote serves only where the text holds a single quote and no double one. -/
def quoteMark (cs : List Char) : Char :=
  if cs.contains '\'' && !cs.contains '"' then '"' else '\''

/-- A character by its number. -/
def numbered (c : Char) : List Char :=
  if c.toNat < 0x100 then '\\' :: 'x' :: hexDigits c.toNat 2
  else if c.toNat < 0x10000 then '\\' :: 'u' :: hexDigits c.toNat 4
  else '\\' :: 'U' :: hexDigits c.toNat 8

/-- The mark, the backslash and three control characters go by a backslash, what is `plain` stands
for itself, and the rest by its number. -/
def quotedChar (plain : Char → Bool) (mark c : Char) : List Char :=
  if c = mark ∨ c = '\\' then ['\\', c]
  else if c = '\n' then ['\\', 'n']
  else if c = '\r' then ['\\', 'r']
  else if c = '\t' then ['\\', 't']
  else if plain c then [c]
  else numbered c

def quotedChars (plain : Char → Bool) (cs : List Char) : List Char :=
  let mark := quoteMark cs
  mark :: cs.flatMap (quotedChar plain mark) ++ [mark]

def quote (s : String) : String := String.ofList (quotedChars isPrintable s.toList)

/-- Shows a code point in quotes, a half of a pair that stands alone by its number. -/
def quotedPoint (mark : Char) (n : Nat) : List Char :=
  if n.isValidChar then quotedChar isPrintable mark (Char.ofNat n)
  else '\\' :: 'u' :: hexDigits n 4

/-- A quoted text, given by its code points. -/
def quotePoints (ns : List Nat) : String :=
  let mark := quoteMark (ns.map Char.ofNat)
  String.ofList (mark :: ns.flatMap (quotedPoint mark) ++ [mark])

/-- A quoted text in which all characters beyond ASCII go by their numbers. -/
def quoteAscii (s : String) : String :=
  String.ofList (quotedChars (fun c => isPrintable c && c.toNat < 0x80) s.toList)

end Text
end RemoteScreen
