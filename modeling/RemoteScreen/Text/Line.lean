/-! Line breaks, the lines of a text, and the first of them. -/
namespace RemoteScreen
namespace Text

/-- The characters that end a display line. -/
def isLineBreak (c : Char) : Bool :=
  let n := c.toNat
  (10 ≤ n && n ≤ 13) || (28 ≤ n && n ≤ 30) || n == 0x85 || n == 0x2028 || n == 0x2029

/-- The lines of a text, each without the break that ends it. A carriage return and the line feed
right after it are one break. A break at the end of the text begins no line. -/
def lines : List Char → List (List Char)
  | [] => []
  | '\r' :: '\n' :: cs => [] :: lines cs
  | c :: cs =>
    if isLineBreak c then [] :: lines cs
    else
      match lines cs with
      | [] => [[c]]
      | l :: ls => (c :: l) :: ls

theorem lines_ne_nil {cs : List Char} (h : cs ≠ []) : lines cs ≠ [] := by
  fun_cases lines cs <;> simp_all

/-- What is shown of a text where there is room for one line. -/
def firstLine (s : String) : String :=
  if h : s = "" then ""
  else String.ofList ((lines s.toList).head (lines_ne_nil (mt String.toList_eq_nil_iff.1 h)))

end Text
end RemoteScreen
