import RemoteScreen.Text.Quoted

/-! Plain texts: those of ASCII characters alone. -/
namespace RemoteScreen
namespace Text

def isPlain (c : Char) : Bool := c.toNat < 0x80

/-- The first run of characters in a text that are not plain: the first of them, where it stands,
and how many they are. -/
structure PlainError where
  char : Char
  position : Nat
  count : Nat
  deriving DecidableEq, Repr

def PlainError.message (e : PlainError) : String :=
  "'ascii' codec can't encode character" ++
    (if e.count = 1 then s!" '{String.ofList (numbered e.char)}' in position {e.position}"
      else s!"s in position {e.position}-{e.position + e.count - 1}") ++
    ": ordinal not in range(128)"

def checkPlain (s : String) : Except PlainError Unit :=
  let (before, rest) := s.toList.span isPlain
  match rest with
  | [] => .ok ()
  | c :: cs => .error ⟨c, before.length, (cs.takeWhile fun d => !isPlain d).length + 1⟩

end Text
end RemoteScreen
