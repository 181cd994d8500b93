/-! Blank characters, and texts trimmed at both ends. -/
namespace RemoteScreen
namespace Text

/-- The characters that count as white space when a text is trimmed: the ASCII controls and
separators, the no-break spaces and the spaces of Unicode. -/
def isBlank (c : Char) : Bool :=
  let n := c.toNat
  (9 ≤ n && n ≤ 13) || (28 ≤ n && n ≤ 32) || n == 0x85 || n == 0xA0 || n == 0x1680 ||
    (0x2000 ≤ n && n ≤ 0x200A) || n == 0x2028 || n == 0x2029 || n == 0x202F || n == 0x205F ||
    n == 0x3000

/-- The blank characters that may stand around a numeral: all but the four ASCII separators. -/
def isMargin (c : Char) : Bool := isBlank c && !(28 ≤ c.toNat && c.toNat ≤ 31)

theorem isBlank_of_isMargin {c : Char} (h : isMargin c) : isBlank c := by
  simp only [isMargin, Bool.and_eq_true] at h
  exact h.1

/-- A text less what `drops` at both of its ends. -/
def trimBy (drops : Char → Bool) (cs : List Char) : List Char :=
  ((cs.dropWhile drops).reverse.dropWhile drops).reverse

def trim (cs : List Char) : List Char := trimBy isBlank cs

@[simp] theorem trim_nil : trim [] = [] := rfl

def strip (s : String) : String := String.ofList (trim s.toList)

@[simp] theorem toList_strip (s : String) : (strip s).toList = trim s.toList := by
  simp [strip]

/-- A text of white space alone, the empty one included. -/
def allBlank (s : String) : Bool := s.toList.all isBlank

end Text
end RemoteScreen
