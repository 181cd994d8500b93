import RemoteScreen.Json.Basic

/-! The compact JSON text of a value. -/
namespace RemoteScreen
namespace Json

def hexDigitChar (n : Nat) : Char :=
  if n < 10 then Char.ofNat (48 + n) else Char.ofNat (87 + n)

/-- The quote, the backslash and the control characters are escaped. -/
def escaped (c : Char) : List Char :=
  if c = '"' then ['\\', '"']
  else if c = '\\' then ['\\', '\\']
  else if c.toNat < 0x20 then
    ['\\', 'u', '0', '0', hexDigitChar (c.toNat / 16), hexDigitChar (c.toNat % 16)]
  else [c]

def quoted (s : String) : List Char := '"' :: s.toList.flatMap escaped ++ ['"']

mutual

def chars : Json → List Char
  | .null => "null".toList
  | .bool true => "true".toList
  | .bool false => "false".toList
  | .number lexeme => lexeme.toList
  | .text s => quoted s
  | .list xs => '[' :: itemChars xs ++ [']']
  | .object es => '{' :: entryChars es ++ ['}']

def itemChars : List Json → List Char
  | [] => []
  | [x] => chars x
  | x :: xs => chars x ++ ',' :: itemChars xs

def entryChars : List (String × Json) → List Char
  | [] => []
  | [(k, x)] => quoted k ++ ':' :: chars x
  | (k, x) :: es => quoted k ++ ':' :: chars x ++ ',' :: entryChars es

end

def print (v : Json) : String := String.ofList (chars v)

end Json
end RemoteScreen
