import Mathlib.Data.List.Basic
import Mathlib.Tactic.SplitIfs
import RemoteScreen.Text.Utf8

/-! Characters are read off the octets they were written as. -/
namespace RemoteScreen
namespace Text
namespace Utf8

variable {a b c d : UInt8} {i j k l : Nat} {rest : Octets}

theorem isTail_iff : isTail b = true ↔ 0x80 ≤ b.toNat ∧ b.toNat < 0xC0 := by
  simp [isTail, UInt8.le_iff_toNat_le, UInt8.lt_iff_toNat_lt]

theorem isTail_of_toNat (hb : b.toNat = j + 0x80) (hj : j < 64) : isTail b = true :=
  isTail_iff.2 (by omega)

/-! The four forms of a character -/

theorem step?_one (ha : a.toNat < 0x80) : step? (a :: rest) = some (Char.ofNat a.toNat, rest) := by
  have hone : a < 0x80 := by simpa [UInt8.lt_iff_toNat_lt] using ha
  simp only [step?, if_pos hone]

theorem step?_two (ha : a.toNat = i + 0xC0) (hb : b.toNat = j + 0x80) (hi : 2 ≤ i ∧ i < 32)
    (hj : j < 64) : step? (a :: b :: rest) = some (Char.ofNat (i * 64 + j), rest) := by
  simp only [step?, UInt8.lt_iff_toNat_lt, UInt8.reduceToNat, ha, hb, isTail_of_toNat hb hj,
    Nat.add_sub_cancel, if_true]
  rw [if_neg (by omega), if_neg (by omega), if_pos (by omega)]

theorem step?_three (ha : a.toNat = i + 0xE0) (hb : b.toNat = j + 0x80) (hc : c.toNat = k + 0x80)
    (hi : i < 16) (hj : j < 64) (hk : k < 64) (hlong : i = 0 → 32 ≤ j) (hpair : i = 13 → j < 32) :
    step? (a :: b :: c :: rest) = some (Char.ofNat (i * 4096 + j * 64 + k), rest) := by
  have hlong' : a = 0xE0 → 32 ≤ j := by
    rintro rfl
    exact hlong (by simpa using ha.symm)
  have hpair' : a = 0xED → j < 32 := by
    rintro rfl
    exact hpair (by simpa using ha.symm)
  simp only [step?, UInt8.lt_iff_toNat_lt, UInt8.le_iff_toNat_le, UInt8.reduceToNat, ha, hb, hc,
    isTail_of_toNat hb hj, isTail_of_toNat hc hk, Nat.add_sub_cancel]
  rw [if_neg (by omega), if_neg (by omega), if_neg (by omega), if_pos (by omega), if_pos]
  simpa [or_iff_not_imp_left] using ⟨hlong', hpair'⟩

theorem step?_four (ha : a.toNat = i + 0xF0) (hb : b.toNat = j + 0x80) (hc : c.toNat = k + 0x80)
    (hd : d.toNat = l + 0x80) (hi : i < 5) (hj : j < 64) (hk : k < 64) (hl : l < 64)
    (hlong : i = 0 → 16 ≤ j) (hlarge : i = 4 → j < 16) :
    step? (a :: b :: c :: d :: rest) =
      some (Char.ofNat (i * 262144 + j * 4096 + k * 64 + l), rest) := by
  have hlong' : a = 0xF0 → 16 ≤ j := by
    rintro rfl
    exact hlong (by simpa using ha.symm)
  have hlarge' : a = 0xF4 → j < 16 := by
    rintro rfl
    exact hlarge (by simpa using ha.symm)
  simp only [step?, UInt8.lt_iff_toNat_lt, UInt8.le_iff_toNat_le, UInt8.reduceToNat, ha, hb, hc, hd,
    isTail_of_toNat hb hj, isTail_of_toNat hc hk, isTail_of_toNat hd hl, Nat.add_sub_cancel]
  rw [if_neg (by omega), if_neg (by omega), if_neg (by omega), if_neg (by omega),
    if_pos (by omega), if_pos]
  simpa [or_iff_not_imp_left] using ⟨hlong', hlarge'⟩

/-! Characters -/

@[simp] theorem encode_append (cs ds : List Char) : encode (cs ++ ds) = encode cs ++ encode ds :=
  List.flatMap_append

theorem toNat_ofNat {n : Nat} (h : n < 256) : (UInt8.ofNat n).toNat = n := by
  simp [Nat.mod_eq_of_lt h]

theorem step?_encode (c : Char) (rest : Octets) :
    step? (String.utf8EncodeChar c ++ rest) = some (c, rest) := by
  have hvalid : c.toNat < 0xD800 ∨ 0xDFFF < c.toNat ∧ c.toNat < 0x110000 := c.valid
  have hchar : c = Char.ofNat c.toNat := (Char.ofNat_toNat c).symm
  have hval : c.val.toNat = c.toNat := rfl
  simp only [String.utf8EncodeChar, hval]
  generalize c.toNat = v at hvalid hchar
  subst hchar
  split_ifs with hone htwo hthree
  · have ha : (UInt8.ofNat v).toNat = v := toNat_ofNat (by omega)
    rw [List.singleton_append, step?_one (by omega), ha]
  · rw [List.cons_append, List.singleton_append,
      step?_two (i := v / 64 % 32) (j := v % 64) (toNat_ofNat (by omega)) (toNat_ofNat (by omega))
        (by omega) (by omega)]
    congr 3
    omega
  · rw [List.cons_append, List.cons_append, List.singleton_append,
      step?_three (i := v / 4096 % 16) (j := v / 64 % 64) (k := v % 64) (toNat_ofNat (by omega))
        (toNat_ofNat (by omega)) (toNat_ofNat (by omega)) (by omega) (by omega) (by omega)
        (by omega) (by omega)]
    congr 3
    omega
  · rw [List.cons_append, List.cons_append, List.cons_append, List.singleton_append,
      step?_four (i := v / 262144 % 8) (j := v / 4096 % 64) (k := v / 64 % 64) (l := v % 64)
        (toNat_ofNat (by omega)) (toNat_ofNat (by omega)) (toNat_ofNat (by omega))
        (toNat_ofNat (by omega)) (by omega) (by omega) (by omega) (by omega) (by omega) (by omega)]
    congr 3
    omega

/-- Only a character below 128 is written with such an octet, and that is its number. -/
theorem toNat_of_mem_encode {c : Char} (h : b ∈ String.utf8EncodeChar c) :
    b.toNat = c.toNat ∨ 0x80 ≤ b.toNat := by
  have hval : c.val.toNat = c.toNat := rfl
  simp only [String.utf8EncodeChar, hval] at h
  split_ifs at h with hone htwo hthree
  · rw [List.mem_singleton] at h
    exact .inl (h ▸ toNat_ofNat (by omega))
  all_goals
    simp only [List.mem_cons, List.not_mem_nil, or_false] at h
    refine .inr ?_
  · rcases h with rfl | rfl
    all_goals rw [toNat_ofNat] <;> omega
  · rcases h with rfl | rfl | rfl
    all_goals rw [toNat_ofNat] <;> omega
  · rcases h with rfl | rfl | rfl | rfl
    all_goals rw [toNat_ofNat] <;> omega

/-- What was written is read. -/
theorem decode_encode (cs : List Char) : decode (encode cs) = .ok cs := by
  induction cs with
  | nil => rw [encode_nil, decode]
  | cons c cs ih =>
    have hstep := step?_encode c (encode cs)
    rw [encode_cons]
    rcases henc : String.utf8EncodeChar c ++ encode cs with - | ⟨b, s⟩
    · rw [henc] at hstep
      simp [step?] at hstep
    · rw [henc] at hstep
      rw [decode]
      split
      · next hnone => simp [hstep] at hnone
      · next c' rest' hsome =>
        rw [hstep] at hsome
        cases hsome
        rw [ih]
        rfl

end Utf8
end Text
end RemoteScreen
