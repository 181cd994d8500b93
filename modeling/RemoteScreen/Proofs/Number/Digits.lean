import RemoteScreen.Number.Numeral
import RemoteScreen.Proofs.Text.Trim
import RemoteScreen.Text.Case
import Mathlib.Data.Nat.Digits.Defs

/-! Digits of every script, and the wider class of characters that have a digit value: what may
stand around them, and when a text of digits is a numeral. -/
namespace RemoteScreen
namespace Text

/-- Where the characters lie that have a digit value. -/
def digitSpans : List (Nat × Nat) := scriptZeros.map (fun z => (z, z + 9)) ++ digitLikeRanges

theorem isDecimalDigit_iff {c : Char} :
    isDecimalDigit c = true ↔ ∃ z ∈ scriptZeros, z ≤ c.toNat ∧ c.toNat < z + 10 := by
  simp [isDecimalDigit, digitValue?]

theorem isDigitLike_iff {c : Char} :
    isDigitLike c = true ↔ ∃ r ∈ digitSpans, r.1 ≤ c.toNat ∧ c.toNat ≤ r.2 := by
  simp only [isDigitLike, Bool.or_eq_true, isDecimalDigit_iff, digitSpans, List.mem_append,
    List.mem_map, or_and_right, exists_or, List.any_eq_true, Bool.and_eq_true, decide_eq_true_eq]
  refine or_congr ⟨?_, ?_⟩ Iff.rfl
  · rintro ⟨z, hz, hle, hlt⟩
    exact ⟨_, ⟨z, hz, rfl⟩, hle, Nat.le_of_lt_succ hlt⟩
  · rintro ⟨_, ⟨z, hz, rfl⟩, hle, hlt⟩
    exact ⟨z, hz, hle, Nat.lt_succ_of_le hlt⟩

theorem isDigitLike_of_isDecimalDigit {c : Char} (h : isDecimalDigit c = true) :
    isDigitLike c = true := by
  simp [isDigitLike, h]

/-- A character in a span apart from those of the digits has no digit value. -/
theorem not_isDigitLike {c : Char} (spans : List (Nat × Nat))
    (hapart : ∀ r ∈ digitSpans, ∀ q ∈ spans, r.2 < q.1 ∨ q.2 < r.1)
    (hc : ∃ q ∈ spans, q.1 ≤ c.toNat ∧ c.toNat ≤ q.2) : isDigitLike c = false := by
  obtain ⟨q, hq, hqle, hleq⟩ := hc
  refine Bool.eq_false_iff.2 fun h => ?_
  obtain ⟨r, hr, hrle, hler⟩ := isDigitLike_iff.1 h
  have := hapart r hr q hq
  omega

/-- Where the blank characters lie. -/
def blankSpans : List (Nat × Nat) := [
  (9, 13), (28, 32), (0x85, 0x85), (0xA0, 0xA0), (0x1680, 0x1680), (0x2000, 0x200A),
  (0x2028, 0x2029), (0x202F, 0x202F), (0x205F, 0x205F), (0x3000, 0x3000)]

theorem not_isDigitLike_of_isBlank {c : Char} (h : isBlank c = true) : isDigitLike c = false := by
  refine not_isDigitLike blankSpans (by decide +kernel) ?_
  simp [isBlank] at h
  simp [blankSpans]
  omega

/-- Upper case changes small letters only, and into capitals. -/
theorem not_isDigitLike_toUpper {c : Char} (h : c.toUpper ≠ c) :
    isDigitLike c = false ∧ isDigitLike c.toUpper = false := by
  have hsmall : 'a'.val ≤ c.val ∧ c.val ≤ 'z'.val := by
    by_contra hsmall
    exact h (dif_neg hsmall)
  have hspan : 0x61 ≤ c.toNat ∧ c.toNat ≤ 0x7A := hsmall
  have hcapital : c.toUpper.toNat = c.toNat - 0x20 := by
    delta Char.toUpper
    rw [dif_pos hsmall]
    change (c.val + ('A'.val - 'a'.val)).toNat = c.toNat - 0x20
    rw [UInt32.toNat_add]
    change (c.toNat + 4294967264) % 2 ^ 32 = c.toNat - 0x20
    omega
  constructor
  · exact not_isDigitLike [(0x61, 0x7A)] (by decide +kernel)
      ⟨_, List.mem_cons_self, hspan⟩
  · refine not_isDigitLike [(0x41, 0x5A)] (by decide +kernel)
      ⟨_, List.mem_cons_self, ?_⟩
    rw [hcapital]
    dsimp only
    omega

/-- Upper case leaves a character alone, or makes letters out of a letter. -/
theorem upperChar_cases (c : Char) : upperChar c = [c] ∨
    isDigitLike c = false ∧ (upperChar c).any (fun d => !isDigitLike d) = true := by
  unfold upperChar
  split_ifs with h₁ h₂ h₃ h₄ h₅ h₆ h₇ h₈ h₉
  any_goals (subst c; exact .inr (by decide))
  · obtain rfl | rfl := h₉ <;> exact .inr (by decide)
  · by_cases h : c.toUpper = c
    · exact .inl (congrArg (fun d => [d]) h)
    · obtain ⟨hc, hupper⟩ := not_isDigitLike_toUpper h
      exact .inr ⟨hc, by simp [hupper]⟩

theorem upperChar_of_isDigitLike {c : Char} (h : isDigitLike c = true) : upperChar c = [c] := by
  rcases upperChar_cases c with hc | ⟨hc, -⟩
  · exact hc
  · rw [h] at hc
    cases hc

/-- Upper case leaves texts of digits as they are. -/
theorem upper_of_isDigitLike {s : String} (h : ∀ c ∈ s.toList, isDigitLike c = true) :
    upper s = s := by
  have hsame := List.map_congr_left fun c hc => upperChar_of_isDigitLike (h c hc)
  rw [upper, List.flatMap_def, hsame, ← List.flatMap_def, List.flatMap_singleton',
    String.ofList_toList]

/-- Upper case makes no such texts. -/
theorem isDigitLike_of_upper {s : String} (h : ∀ c ∈ (upper s).toList, isDigitLike c = true) :
    ∀ c ∈ s.toList, isDigitLike c = true := by
  intro c hc
  simp only [upper, String.toList_ofList, List.mem_flatMap] at h
  rcases upperChar_cases c with hupper | ⟨-, hupper⟩
  · exact h c ⟨c, hc, hupper ▸ List.mem_singleton_self c⟩
  · obtain ⟨d, hd, hd'⟩ := List.any_eq_true.1 hupper
    rw [h d ⟨c, hc, hd⟩] at hd'
    cases hd'

end Text

namespace Number

open Text (digitValue? isDecimalDigit isDigitLike trimBy isMargin)

/-- The values of the digits of a text. -/
def digitsOf (cs : List Char) : List Nat := cs.filterMap digitValue?

theorem digitRun_of_decimal {cs : List Char} (h : ∀ c ∈ cs, isDecimalDigit c = true) :
    digitRun cs = (digitsOf cs, []) := by
  induction cs using digitRun.induct with
  | case1 => rfl
  | case2 c cs hc => simpa [isDecimalDigit, hc] using h c List.mem_cons_self
  | case3 c v hv d ds => exact absurd (h '_' (by simp)) (by decide)
  | case4 c v hv d ds => exact absurd (h '_' (by simp)) (by decide)
  | case5 c v hv cs hnext vs rest hrun ih =>
    have hcs := ih fun d hd => h d (List.mem_cons_of_mem c hd)
    rw [digitRun]
    simp [hv, hcs, digitsOf]

/-- A run of digits that takes in a whole text takes in digits and low lines only. -/
theorem decimal_of_digitRun {cs : List Char} (h : (digitRun cs).2 = []) :
    ∀ c ∈ cs, isDecimalDigit c = true ∨ c = '_' := by
  have hdigit {c : Char} {v : Nat} (hv : digitValue? c = some v) : isDecimalDigit c = true := by
    rw [isDecimalDigit, hv, Option.isSome_some]
  induction cs using digitRun.induct with
  | case1 => exact fun c hc => absurd hc List.not_mem_nil
  | case2 c cs hc =>
    rw [digitRun] at h
    simp [hc] at h
  | case3 c v hv d ds hd vs rest hrun ih =>
    rw [digitRun] at h
    simp only [hv, hd, hrun, if_true] at h
    have hds := ih (by rw [hrun]; exact h)
    simpa [hdigit hv] using hds
  | case4 c v hv d ds hd =>
    rw [digitRun] at h
    simp [hv, hd] at h
  | case5 c v hv cs hnext vs rest hrun ih =>
    rw [digitRun] at h
    simp only [hv, hrun] at h
    have hcs := ih (by rw [hrun]; exact h)
    simpa [hdigit hv] using hcs

theorem ofDigits_eq (vs : List Nat) : ofDigits vs = Nat.ofDigits 10 vs.reverse := by
  rw [Nat.ofDigits_eq_foldr, List.foldr_reverse, ofDigits]
  congr 1
  funext n v
  simp
  omega

/-- One digit or more of any script and nothing else, and no more than a whole number may have. -/
def Numeral (cs : List Char) : Prop :=
  cs ≠ [] ∧ (∀ c ∈ cs, isDecimalDigit c = true) ∧ cs.length ≤ maxDigits

/-- The digits are gone through one by one. -/
instance (cs : List Char) : Decidable (Numeral cs) :=
  haveI : Decidable (∀ c ∈ cs, isDecimalDigit c = true) := List.decidableBAll _ _
  inferInstanceAs (Decidable (_ ∧ _ ∧ _))

/-- The number that digits stand for, the last one counting once. -/
def numeralValue (cs : List Char) : Nat := Nat.ofDigits 10 (digitsOf cs).reverse

theorem length_digitsOf {cs : List Char} (h : ∀ c ∈ cs, isDecimalDigit c = true) :
    (digitsOf cs).length = cs.length := by
  induction cs with
  | nil => rfl
  | cons c cs ih =>
    obtain ⟨v, hv⟩ := Option.isSome_iff_exists.1 (h c List.mem_cons_self)
    have hcs := ih fun d hd => h d (List.mem_cons_of_mem c hd)
    simp [digitsOf, hv] at hcs ⊢
    exact hcs

/-- Neither a margin nor a sign is cut off a text all of whose characters have a digit value. -/
theorem sign_of_isDigitLike {s : String} (h : ∀ c ∈ s.toList, isDigitLike c = true) :
    sign (trimBy isMargin s.toList) = (false, s.toList) := by
  have hmargin (c : Char) (hc : c ∈ s.toList) : isMargin c = false := by
    refine Bool.eq_false_iff.2 fun hmargin => ?_
    have hblank := Text.not_isDigitLike_of_isBlank (Text.isBlank_of_isMargin hmargin)
    rw [h c hc] at hblank
    cases hblank
  rw [Text.trimBy_eq_self hmargin]
  unfold sign
  split
  · next cs heq => exact absurd (h '-' (heq ▸ List.mem_cons_self)) (by decide)
  · next cs heq => exact absurd (h '+' (heq ▸ List.mem_cons_self)) (by decide)
  · rfl

/-- A numeral is read as the number it stands for. -/
theorem whole_of_numeral {s : String} (h : Numeral s.toList) :
    whole s = .ok (numeralValue s.toList : Int) := by
  obtain ⟨hne, hdecimal, hlength⟩ := h
  have hlike (c : Char) (hc : c ∈ s.toList) := Text.isDigitLike_of_isDecimalDigit (hdecimal c hc)
  have hcount := length_digitsOf hdecimal
  have hdigits : digitsOf s.toList ≠ [] := by
    rw [← List.length_pos_iff, hcount]
    exact List.length_pos_iff.2 hne
  have hshort : ¬(maxDigits < (digitsOf s.toList).length) := by omega
  unfold whole
  rw [sign_of_isDigitLike hlike]
  simp [digitRun_of_decimal hdecimal, hdigits, hshort, signed, ofDigits_eq, numeralValue]

/-- Of the texts all of whose characters have a digit value, only numerals can be read. -/
theorem numeral_of_whole {s : String} {n : Int} (hlike : ∀ c ∈ s.toList, isDigitLike c = true)
    (h : whole s = .ok n) : Numeral s.toList := by
  unfold whole at h
  rw [sign_of_isDigitLike hlike] at h
  rcases hrun : digitRun s.toList with ⟨vs, rest⟩
  simp only [hrun] at h
  split at h
  · cases h
  next hvs =>
  split at h
  · cases h
  next hlong =>
  split at h
  · cases h
  next hrest =>
  obtain rfl := not_not.1 hrest
  have hdecimal (c : Char) (hc : c ∈ s.toList) : isDecimalDigit c = true := by
    rcases decimal_of_digitRun (congrArg Prod.snd hrun) c hc with hc' | rfl
    · exact hc'
    · exact absurd (hlike '_' hc) (by decide)
  have hdigits : vs = digitsOf s.toList :=
    congrArg Prod.fst (hrun.symm.trans (digitRun_of_decimal hdecimal))
  have hcount := length_digitsOf hdecimal
  rw [← hdigits] at hcount
  refine ⟨?_, hdecimal, ?_⟩
  · rw [← List.length_pos_iff, ← hcount]
    exact List.length_pos_iff.2 hvs
  · have : ¬(maxDigits < vs.length) := fun h => hlong ⟨h, by simp⟩
    omega

end Number
end RemoteScreen
