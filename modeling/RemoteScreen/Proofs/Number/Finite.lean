import Mathlib
import RemoteScreen.Number.Binary
import RemoteScreen.Value

/-! Whole numbers that are floats: below a bound that no count reaches, the float nearest to a whole
number is finite. -/
namespace RemoteScreen
namespace Number

open Float.Model (Format UnpackedFloat)
open Float.Model.UnpackedFloat

/-- The exponent field of a float as it is stored; all ones stand for infinities and the rest that
is no number. -/
def exponentField (bits : Nat) : Nat := bits / Nat.pow 2 fractionBits % 2048

theorem exponentField_of_isInfinite {x : Float} (h : isInfinite x = true) :
    exponentField x.toBits.toNat = 2047 := by
  refine Decidable.byContradiction fun hne => ?_
  unfold isInfinite parts at h
  simp only [exponentField, Nat.pow_eq] at hne h
  rw [if_neg hne] at h
  by_cases hzero : x.toBits.toNat / 2 ^ fractionBits % 2048 = 0 <;>
    simp [hzero] at h

theorem toNat_unpackExponent (b : BitVec Format.binary64.numBits) :
    (unpackExponent b).toNat = exponentField b.toNat := by
  simp [unpackExponent, exponentField, Format.binary64, fractionBits, BitVec.extractLsb_toNat,
    Nat.shiftRight_eq_div_pow]

theorem unpackExponent_eq_ones_iff (b : BitVec Format.binary64.numBits) :
    unpackExponent b = -1#_ ↔ exponentField b.toNat = 2047 := by
  rw [← toNat_unpackExponent, ← BitVec.toNat_inj]
  rfl

/-- A stored float that is read and written again keeps an exponent field that is not all ones. -/
theorem unpackExponent_pack_unpack {b : BitVec Format.binary64.numBits}
    (h : unpackExponent b ≠ -1#_) :
    unpackExponent (pack Format.binary64 (unpack Format.binary64 b)) ≠ -1#_ := by
  have hnumber : isNaNBits b = false := by simp only [isNaNBits, h, false_and, decide_false]
  rw [pack_unpack b, hnumber]
  exact h

theorem isInfinite_ofBits {bits : Nat} (hlt : bits < 2 ^ 64) (h : exponentField bits ≠ 2047) :
    isInfinite (Float.ofBits bits.toUInt64) = false := by
  refine Bool.eq_false_iff.2 fun hinf => ?_
  have hfield := exponentField_of_isInfinite hinf
  have hones : unpackExponent (pack Format.binary64
      (unpack Format.binary64 bits.toUInt64.toBitVec)) = -1#_ :=
    (unpackExponent_eq_ones_iff _).2 hfield
  refine unpackExponent_pack_unpack (fun he => h ?_) hones
  have hnat : bits.toUInt64.toBitVec.toNat = bits := Nat.mod_eq_of_lt hlt
  have hbits := (unpackExponent_eq_ones_iff _).1 he
  rwa [hnat] at hbits

/-! Rounding a whole number -/

theorem isInfinite_ofParts (negative : Bool) {m : Nat} {e : Int} (hm : m < 2 ^ 53)
    (he : e < 972) : isInfinite (ofParts negative m e) = false := by
  have hsign : (if negative then 2 ^ 63 else 0 : Nat) = 0 ∨
      (if negative then 2 ^ 63 else 0 : Nat) = 2 ^ 63 := by
    cases negative <;> simp
  have hbiased : ¬ 2047 ≤ (e - lowestExponent + 1).toNat := by
    simp only [lowestExponent]
    omega
  unfold ofParts
  simp only [fractionBits, Nat.pow_eq, if_neg hbiased] at hsign ⊢
  generalize (if negative then 2 ^ 63 else 0 : Nat) = sign at hsign
  generalize (e - lowestExponent + 1).toNat = biased at hbiased
  split
  · refine isInfinite_ofBits (by omega) ?_
    simp only [exponentField, fractionBits, Nat.pow_eq]
    omega
  · refine isInfinite_ofBits (by omega) ?_
    simp only [exponentField, fractionBits, Nat.pow_eq]
    omega

theorem roundEven_le (num den : Nat) : roundEven num den ≤ num / den + 1 := by
  unfold roundEven
  dsimp only
  split
  · omega
  · split
    · omega
    · split <;> omega

/-- In units of its leading bit shifted to the top of the fraction, a whole number has a full
fraction. -/
theorem scaled_log2 {n : Nat} (h : n ≠ 0) :
    let a := scaled n 1 (n.log2 - fractionBits)
    2 ^ fractionBits ≤ a.1 / a.2 ∧ a.1 / a.2 < 2 ^ (fractionBits + 1) := by
  have hle := Nat.log2_self_le h
  have hlt := Nat.lt_log2_self (n := n)
  unfold scaled
  simp only [Nat.pow_eq]
  by_cases hbits : fractionBits ≤ n.log2
  · have hexp : ((n.log2 : Int) - fractionBits).toNat = n.log2 - fractionBits := by omega
    rw [if_pos (by omega), hexp]
    simp only [Nat.one_mul]
    rw [Nat.le_div_iff_mul_le (Nat.two_pow_pos _), Nat.div_lt_iff_lt_mul (Nat.two_pow_pos _),
      ← Nat.pow_add, ← Nat.pow_add, Nat.add_sub_cancel' hbits,
      show fractionBits + 1 + (n.log2 - fractionBits) = n.log2 + 1 by omega]
    exact ⟨hle, hlt⟩
  · have hexp : (-((n.log2 : Int) - fractionBits)).toNat = fractionBits - n.log2 := by omega
    rw [if_neg (by omega), hexp]
    simp only [Nat.div_one]
    constructor
    · calc 2 ^ fractionBits = 2 ^ n.log2 * 2 ^ (fractionBits - n.log2) := by
            rw [← Nat.pow_add, Nat.add_sub_cancel' (by omega)]
        _ ≤ n * 2 ^ (fractionBits - n.log2) := Nat.mul_le_mul_right _ hle
    · calc n * 2 ^ (fractionBits - n.log2) < 2 ^ (n.log2 + 1) * 2 ^ (fractionBits - n.log2) :=
            Nat.mul_lt_mul_of_pos_right hlt (Nat.two_pow_pos _)
        _ = 2 ^ (fractionBits + 1) := by
            rw [← Nat.pow_add,
              show n.log2 + 1 + (fractionBits - n.log2) = fractionBits + 1 by omega]

theorem exponentFor_one {n : Nat} (h : n ≠ 0) :
    exponentFor n 1 = (n.log2 : Int) - fractionBits := by
  have hscaled := (scaled_log2 h).1
  have hlog : Nat.log2 1 = 0 := by decide
  unfold exponentFor
  simp only [hlog, Int.natCast_zero, Int.sub_zero, Nat.pow_eq]
  rw [if_neg (Nat.not_lt.2 hscaled)]
  simp only [lowestExponent, fractionBits]
  omega

theorem isInfinite_nearest (negative : Bool) {n : Nat} (h : n < 2 ^ 1023) :
    isInfinite (nearest negative n 1) = false := by
  unfold nearest
  by_cases hzero : n = 0
  · rw [if_pos hzero]
    exact isInfinite_ofParts negative (by decide) (by decide)
  · rw [if_neg hzero]
    have hlog : n.log2 < 1023 := (Nat.log2_lt hzero).2 h
    have hscaled := (scaled_log2 hzero).2
    have hround := roundEven_le (scaled n 1 (n.log2 - fractionBits)).1
      (scaled n 1 (n.log2 - fractionBits)).2
    simp only [exponentFor_one hzero, Nat.pow_eq]
    by_cases htop : roundEven (scaled n 1 (n.log2 - fractionBits)).1
        (scaled n 1 (n.log2 - fractionBits)).2 = 2 ^ (fractionBits + 1)
    · rw [if_pos htop]
      exact isInfinite_ofParts negative (by decide) (by simp only [fractionBits]; omega)
    · rw [if_neg htop]
      refine isInfinite_ofParts negative ?_ (by simp only [fractionBits]; omega)
      have hbits : 2 ^ (fractionBits + 1) = 2 ^ 53 := rfl
      omega

end Number

/-- A whole number below the bound counts as a float. -/
theorem Value.toFloat_int {n : Int} (h : n.natAbs < 2 ^ 1023) :
    (Value.int n).toFloat = .ok (Number.ofInt n) := by
  have hfinite : Number.isInfinite (Number.ofInt n) = false := Number.isInfinite_nearest _ h
  simp [Value.toFloat, hfinite]

theorem Value.toFloat_int_of_isInfinite {n : Int} (h : Number.isInfinite (Number.ofInt n) = true) :
    (Value.int n).toFloat = .error .tooLarge := by
  simp [Value.toFloat, h]

end RemoteScreen
