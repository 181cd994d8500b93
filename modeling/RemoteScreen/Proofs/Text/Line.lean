import Mathlib.Data.List.Infix
import RemoteScreen.Text.Line

/-! The lines of a text. A text is broken at every line break and nowhere else, so that its first
line is the longest part at its beginning without a break. -/
namespace RemoteScreen
namespace Text

/-- Line feed, carriage return, the tabulation of lines, form feed, the separators of files, groups
and records, next line, and the separators of lines and paragraphs. -/
def lineBreaks : List Char :=
  ['\n', '\r', '\x0b', '\x0c', '\x1c', '\x1d', '\x1e', '\u0085', '\u2028', '\u2029']

theorem isLineBreak_iff (c : Char) : isLineBreak c = true ↔ c ∈ lineBreaks := by
  have hchar (d : Char) : c = d ↔ c.toNat = d.toNat := (Char.toNat_inj).symm
  simp only [isLineBreak, lineBreaks, List.mem_cons, List.not_mem_nil, or_false, hchar,
    Bool.or_eq_true, Bool.and_eq_true, decide_eq_true_eq, beq_iff_eq]
  simp only [Char.reduceToNat]
  omega

/-- No character ends a line. -/
def Unbroken (cs : List Char) : Prop := ∀ c ∈ cs, c ∉ lineBreaks

/-- One break: a single character, or a carriage return with the line feed after it. -/
inductive IsBreak : List Char → Prop where
  | single {c} (h : c ∈ lineBreaks) : IsBreak [c]
  | pair : IsBreak ['\r', '\n']

/-- A text and its lines. A pair is not taken apart, and what follows the last break is a line if
there is anything. -/
inductive BrokenInto : List Char → List (List Char) → Prop where
  | empty : BrokenInto [] []
  | last {l} (text : l ≠ []) (unbroken : Unbroken l) : BrokenInto l [l]
  | line {l b cs ls} (unbroken : Unbroken l) (isBreak : IsBreak b)
      (whole : ¬ (b = ['\r'] ∧ ∃ ds, cs = '\n' :: ds)) (others : BrokenInto cs ls) :
      BrokenInto (l ++ b ++ cs) (l :: ls)

theorem unbroken_nil : Unbroken [] := fun _ h => absurd h List.not_mem_nil

theorem Unbroken.cons {c : Char} {cs : List Char} (hc : c ∉ lineBreaks) (h : Unbroken cs) :
    Unbroken (c :: cs) := List.forall_mem_cons.2 ⟨hc, h⟩

/-- A character in front of the first line belongs to it, unless it ends a line. -/
theorem BrokenInto.cons {c : Char} {cs l : List Char} {ls : List (List Char)}
    (h : BrokenInto cs (l :: ls)) (hc : c ∉ lineBreaks) :
    BrokenInto (c :: cs) ((c :: l) :: ls) := by
  cases h with
  | last _ hunbroken => exact .last (List.cons_ne_nil _ _) (hunbroken.cons hc)
  | line hunbroken hbreak hwhole hothers => exact .line (hunbroken.cons hc) hbreak hwhole hothers

theorem lines_brokenInto (cs : List Char) : BrokenInto cs (lines cs) := by
  fun_induction lines cs with
  | case1 => exact .empty
  | case2 cs ih => exact .line unbroken_nil .pair (by simp) ih
  | case3 c cs hpair hbreak ih =>
    refine .line unbroken_nil (.single ((isLineBreak_iff c).1 hbreak)) ?_ ih
    rintro ⟨hc, ds, rfl⟩
    exact hpair ds (List.singleton_inj.1 hc) rfl
  | case4 c cs _ hplain hnone _ =>
    have hcs : cs = [] := Decidable.byContradiction fun hcs => lines_ne_nil hcs hnone
    subst hcs
    have hc : c ∉ lineBreaks := mt (isLineBreak_iff c).2 hplain
    exact .last (List.cons_ne_nil c []) (unbroken_nil.cons hc)
  | case5 c cs _ hplain l ls hlines ih =>
    rw [hlines] at ih
    exact ih.cons (mt (isLineBreak_iff c).2 hplain)

/-! The first line -/

/-- Where the first line ends, a break follows or nothing. -/
structure Ends (cs line : List Char) : Prop where
  unbroken : Unbroken line
  followed : ∃ rest, cs = line ++ rest ∧ ∀ c ∈ rest.head?, c ∈ lineBreaks

theorem BrokenInto.ends {cs l : List Char} {ls : List (List Char)} (h : BrokenInto cs (l :: ls)) :
    Ends cs l := by
  cases h with
  | last _ hunbroken => exact ⟨hunbroken, [], by simp, by simp⟩
  | @line _ b cs _ hunbroken hbreak =>
    refine ⟨hunbroken, b ++ cs, List.append_assoc l b cs, ?_⟩
    cases hbreak with
    | single hc => simpa using hc
    | pair => simp [lineBreaks]

theorem head?_lines {s : String} (h : s ≠ "") :
    (lines s.toList).head? = some (firstLine s).toList := by
  rw [firstLine, dif_neg h, String.toList_ofList, List.head?_eq_some_head]

theorem firstLine_ends (s : String) : Ends s.toList (firstLine s).toList := by
  by_cases h : s = ""
  · subst h
    exact ⟨unbroken_nil, [], rfl, by simp⟩
  · obtain ⟨ls, hlines⟩ := List.head?_eq_some_iff.1 (head?_lines h)
    exact BrokenInto.ends (hlines ▸ lines_brokenInto s.toList)

variable {cs line : List Char}

theorem Ends.initial (h : Ends cs line) : line <+: cs := by
  obtain ⟨rest, rfl, -⟩ := h.followed
  exact List.prefix_append line rest

/-- Of all parts at the beginning that have no break it is the longest. -/
theorem Ends.longest (h : Ends cs line) {p : List Char} (hp : p <+: cs) (hunbroken : Unbroken p) :
    p <+: line := by
  obtain ⟨rest, rfl, hrest⟩ := h.followed
  rcases List.prefix_or_prefix_of_prefix hp (List.prefix_append line rest) with hshort | hlong
  · exact hshort
  · obtain ⟨more, rfl⟩ := hlong
    obtain ⟨after, rfl⟩ := (List.prefix_append_right_inj line).1 hp
    cases more with
    | nil => rw [List.append_nil]
    | cons c more =>
      have hbreak : c ∈ lineBreaks := hrest c rfl
      exact absurd hbreak (hunbroken c (by simp))

theorem Ends.eq_self (h : Ends cs line) (hcs : Unbroken cs) : line = cs :=
  h.initial.eq_of_length_le (h.longest List.prefix_rfl hcs).length_le

theorem Ends.eq_nil {c : Char} (h : Ends (c :: cs) line) (hc : c ∈ lineBreaks) : line = [] := by
  obtain ⟨rest, heq, -⟩ := h.followed
  cases line with
  | nil => rfl
  | cons d line =>
    obtain rfl : c = d := (List.cons.inj heq).1
    exact absurd hc (h.unbroken c List.mem_cons_self)

theorem Ends.break_follows (h : Ends cs line) (hcs : ¬ Unbroken cs) :
    ∃ c ∈ lineBreaks, line ++ [c] <+: cs := by
  obtain ⟨rest, rfl, hrest⟩ := h.followed
  cases rest with
  | nil => exact absurd (by simpa using h.unbroken) hcs
  | cons c rest =>
    refine ⟨c, hrest c rfl, rest, ?_⟩
    rw [List.append_assoc, List.singleton_append]

theorem firstLine_eq_self {s : String} (h : Unbroken s.toList) : firstLine s = s :=
  String.toList_inj.1 ((firstLine_ends s).eq_self h)

/-- What the first line of a text is, by the text alone. -/
structure Clipped (s line : String) : Prop where
  /-- The text has lines, unless it is empty, and this is the first of them. -/
  first : s ≠ "" → ∃ ls, BrokenInto s.toList (line.toList :: ls) ∧
    lines s.toList = line.toList :: ls
  initial : line.toList <+: s.toList
  unbroken : Unbroken line.toList
  longest : ∀ p, p <+: s.toList → Unbroken p → p <+: line.toList
  whole : Unbroken s.toList → line = s
  blank : ∀ c cs, s.toList = c :: cs → c ∈ lineBreaks → line = ""
  followed : ¬ Unbroken s.toList → ∃ c ∈ lineBreaks, line.toList ++ [c] <+: s.toList
  again : firstLine line = line

theorem firstLine_clipped (s : String) : Clipped s (firstLine s) where
  first h := by
    obtain ⟨ls, hlines⟩ := List.head?_eq_some_iff.1 (head?_lines h)
    exact ⟨ls, hlines ▸ lines_brokenInto s.toList, hlines⟩
  initial := (firstLine_ends s).initial
  unbroken := (firstLine_ends s).unbroken
  longest _ := (firstLine_ends s).longest
  whole := firstLine_eq_self
  blank c cs hs hc := by
    have hends := firstLine_ends s
    rw [hs] at hends
    exact String.toList_eq_nil_iff.1 (hends.eq_nil hc)
  followed := (firstLine_ends s).break_follows
  again := firstLine_eq_self (firstLine_ends s).unbroken

end Text
end RemoteScreen
