import Mathlib
import TableDiscovery.Number.Power

/-!
# Integers that have a double next to them

An integer is converted to the nearest double, which is infinite if the integer is too large. Below
a bound it never is, so that powers of one with such exponents have a value.

* `Number.Within`: unpacked doubles that are finite, with a bound for the exponent;
* `within_round`, `within_unpack_pack`, `within_mul`: rounding, packing and products;
* `Number.bound`, **`exists_ofInt`**: the integers below the bound are converted;
* `power_zero`, `power_one`: powers with exponent zero, and powers of one.
-/

namespace TableDiscovery.Number

open Float.Model (Format totalExponent UnpackedFloat)
open Float.Model.UnpackedFloat

/-- Zero, or finite with a mantissa of 53 bits and an exponent of at most `b`. -/
inductive Within (b : Int) : UnpackedFloat → Prop
  | zero (s : Sign) : Within b (.zero s)
  | finite {s : Sign} {m : Nat} {e : Int} {hm : 0 < m} :
    m < 2 ^ 53 → e ≤ b → Within b (.finite s m e hm)

theorem Within.isInf {b : Int} {u : UnpackedFloat} (h : Within b u) : u.isInf = false := by
  cases h <;> rfl

theorem log2_le_of_lt {n k : Nat} (h : n < 2 ^ k) : n.log2 ≤ k - 1 := by
  rcases Nat.eq_zero_or_pos n with rfl | hn
  · exact Nat.zero_le _
  · exact Nat.le_sub_one_of_lt ((Nat.log2_lt hn.ne').mpr h)

theorem log2_shiftLeft_le (n k : Nat) : (n <<< k).log2 ≤ n.log2 + k := by
  have hlt : n <<< k < 2 ^ (n.log2 + 1 + k) := by
    rw [Nat.shiftLeft_eq, Nat.pow_add]
    exact Nat.mul_lt_mul_of_pos_right Nat.lt_log2_self (Nat.two_pow_pos k)
  have := log2_le_of_lt hlt
  omega

/-! ## Rounding -/

theorem mantissa_shift (em : ExtendedMantissa) (n : Nat) :
    (em >>> n).mantissa = em.mantissa / 2 ^ n := by
  induction n with
  | zero => exact (Nat.div_one _).symm
  | succ n ih =>
    have hstep : em >>> (n + 1) = (em >>> n).shiftRightOne := rfl
    rw [hstep, Nat.pow_succ, ← Nat.div_div_eq_div_mul, ← ih]
    rfl

theorem mantissa_ofMantissaAndAccuracy (m : Nat) (a : Accuracy) :
    (ExtendedMantissa.ofMantissaAndAccuracy m a).mantissa = m := by
  cases a with
  | exact => rfl
  | inexact o => cases o <;> rfl

theorem roundedMantissa_le (em : ExtendedMantissa) : em.roundedMantissa ≤ em.mantissa + 1 := by
  obtain ⟨m, r, s⟩ := em
  have := Nat.mod_lt m Nat.two_pos
  cases r <;> cases s <;>
    simp only [ExtendedMantissa.roundedMantissa, ExtendedMantissa.accuracy,
      Accuracy.roundToNearestEven] <;> omega

/-- The mantissa is cut to 53 bits. -/
theorem shift_bounds (m : Nat) (e : Int) (a : Accuracy) :
    (shiftToTargetExponent Format.binary64 m e a).1.mantissa < 2 ^ 53 ∧
      (shiftToTargetExponent Format.binary64 m e a).2 ≤
        max e (max (totalExponent m e - 53) (-1074)) := by
  have htarget : Format.binary64.targetExponent (totalExponent m e) =
      max (totalExponent m e - 53) (-1074) := rfl
  simp only [shiftToTargetExponent, shiftToExponent, htarget, mantissa_shift,
    mantissa_ofMantissaAndAccuracy]
  constructor
  · rw [Nat.div_lt_iff_lt_mul (Nat.two_pow_pos _), ← Nat.pow_add]
    refine Nat.lt_of_lt_of_le Nat.lt_log2_self (Nat.pow_le_pow_right Nat.two_pos ?_)
    simp only [totalExponent]
    omega
  · omega

/-- Rounding up may take one more bit, which raises the exponent by one. -/
theorem within_round (s : Sign) {m : Nat} {e b : Int} (a : Accuracy) (hb : -1074 < b) (he : e < b)
    (ht : totalExponent m e < b + 53) :
    Within b (roundWithAccuracy Format.binary64 s m e a) := by
  have hfirst := shift_bounds m e a
  rw [roundWithAccuracy]
  generalize shiftToTargetExponent Format.binary64 m e a = r at hfirst ⊢
  obtain ⟨em, e₁⟩ := r
  dsimp only at hfirst ⊢
  have hrounded : em.roundedMantissa < 2 ^ 54 := by
    have := roundedMantissa_le em
    omega
  have htotal : totalExponent em.roundedMantissa e₁ ≤ b + 53 := by
    have := log2_le_of_lt hrounded
    rw [totalExponent]
    omega
  have hsecond := shift_bounds em.roundedMantissa e₁ .exact
  split
  · exact .zero s
  · exact .finite hsecond.1 (by omega)

/-! ## Packing -/

/-- Bits whose exponent is not the greatest one are read as a finite number. -/
theorem within_unpack_packComponents (s : Sign) (x : BitVec Format.binary64.exponentBits)
    (y : BitVec Format.binary64.mantissaBitsWithoutImplicit) {b : Int} (hb : -1074 ≤ b)
    (hb' : b ≤ 971) (hx : (x.toNat : Int) ≤ b + 1075) :
    Within b (unpack Format.binary64 (packComponents Format.binary64 s x y)) := by
  have hne : x ≠ -1#(Format.binary64.exponentBits) := by
    rintro rfl
    change (2047 : Int) ≤ b + 1075 at hx
    omega
  have hy : y.toNat < 2 ^ 52 := y.isLt
  simp only [unpack, unpackMantissa_packComponents, unpackExponent_packComponents, if_neg hne]
  split
  · rename_i hzero
    split
    · exact .zero _
    · refine .finite (by omega) ?_
      rw [hzero]
      change (0 - (1023 + 52)) + 1 ≤ b
      omega
  · refine .finite (1#1 ++ y).isLt ?_
    change (x.toNat : Int) - (1023 + 52) ≤ b
    omega

theorem within_unpack_pack {u : UnpackedFloat} {b : Int} (h : Within b u) (hb : -1074 ≤ b)
    (hb' : b ≤ 971) : Within b (unpack Format.binary64 (pack Format.binary64 u)) := by
  have hleast : ((0#(Format.binary64.exponentBits)).toNat : Int) ≤ b + 1075 := by
    change (0 : Int) ≤ b + 1075
    omega
  cases h with
  | zero s => exact within_unpack_packComponents s 0 0 hb hb' hleast
  | @finite s m e _ _ he =>
    have hbiased : ¬ 2 ^ Format.binary64.exponentBits ≤ (e + Format.binary64.exponentBias +
        Format.binary64.mantissaBitsWithoutImplicit).toNat + 1 := by
      change ¬ 2048 ≤ (e + 1023 + 52).toNat + 1
      omega
    simp only [pack, if_neg hbiased]
    split
    · refine within_unpack_packComponents s _ _ hb hb' ?_
      change (((e + 1023 + 52).toNat % 2048 : Nat) : Int) ≤ b + 1075
      omega
    · exact within_unpack_packComponents s _ _ hb hb' hleast

theorem isInf_pack {u : UnpackedFloat} {b : Int} (h : Within b u) (hb : -1074 ≤ b)
    (hb' : b ≤ 971) : (Float.Model.pack u).isInf = false :=
  (within_unpack_pack h hb hb').isInf

/-! ## Conversion -/

theorem within_mul {u v : UnpackedFloat} {b c : Int} (hu : Within b u) (hv : Within c v)
    (hb : -1074 < b + c + 54) : Within (b + c + 54) (mul Format.binary64 u v) := by
  cases hu with
  | zero s => cases hv <;> exact .zero _
  | @finite _ m _ _ hm he =>
    cases hv with
    | zero t => exact .zero _
    | @finite _ m' _ _ hm' he' =>
      have hprod : m * m' < 2 ^ (53 + 53) := by
        rw [Nat.pow_add]
        exact Nat.mul_lt_mul'' hm hm'
      have hlog := log2_le_of_lt hprod
      refine within_round _ .exact hb (by omega) ?_
      rw [totalExponent]
      omega

/-- A number of 53 bits is moved to the left before it is rounded. -/
theorem within_ofNat {n : Nat} (h : n < 2 ^ 53) : Within 1 (ofNat Format.binary64 n) := by
  rcases Nat.eq_zero_or_pos n with rfl | hn
  · exact .zero _
  have hlog := log2_le_of_lt h
  have hcompare : compare (n : Int) 0 = .gt := compare_gt_iff_gt.mpr (Int.natCast_pos.mpr hn)
  have htarget : Format.binary64.targetExponent (totalExponent n 0) = n.log2 + 1 + 0 - 53 := by
    change max ((n.log2 : Int) + 1 + 0 - 53) (3 - 1024 - 53) = _
    omega
  simp only [UnpackedFloat.ofNat, UnpackedFloat.ofInt, UnpackedFloat.normalize, hcompare,
    UnpackedFloat.round, UnpackedFloat.decreaseExponent, Int.toNat_natCast, htarget]
  refine within_round _ _ (by omega) (by omega) ?_
  have := log2_shiftLeft_le n (0 - ((n.log2 : Int) + 1 + 0 - 53)).toNat
  rw [totalExponent]
  omega

/-- A natural number is rounded once. -/
theorem ofScientific_eq {n : Nat} (hn : n ≠ 0) :
    UnpackedFloat.ofScientific Format.binary64 n 0 =
      roundWithAccuracy Format.binary64 .positive (n <<< 53) (-53) .exact := by
  have hmost : ¬ (0 : Int) > 2 ^ Format.binary64.exponentBits := by decide
  have hleast : ¬ (0 : Int) < -(2 ^ Format.binary64.exponentBits + (n.log2 : Int)) := by
    change ¬ (0 : Int) < -(2 ^ 11 + (n.log2 : Int))
    omega
  have hm : n <<< Format.binary64.mantissaBits * 10 ^ Int.toNat 0 = n <<< 53 := Nat.mul_one _
  have he : -(Format.binary64.mantissaBits : Int) + 0 = -53 := rfl
  rw [UnpackedFloat.ofScientific, dif_neg hn, if_neg hmost, if_neg hleast,
    if_pos (Int.le_refl 0)]
  simp only [UnpackedFloat.mul, hm, he]
  rfl

theorem within_ofScientific {n : Nat} (h : n.log2 ≤ 1022) :
    Within 971 (UnpackedFloat.ofScientific Format.binary64 n 0) := by
  by_cases hn : n = 0
  · subst hn
    exact .zero _
  · have htotal : totalExponent (n <<< 53) (-53) < 971 + 53 := by
      have := log2_shiftLeft_le n 53
      rw [totalExponent]
      omega
    rw [ofScientific_eq hn]
    exact within_round _ .exact (by omega) (by omega) htotal

/-- Half the least power of two that is too large for a double. -/
def bound : Nat := 2 ^ 1023

theorem lt_two_pow {j k : Nat} (h : j ≤ k) : j < 2 ^ k :=
  Nat.lt_of_le_of_lt h Nat.lt_two_pow_self

theorem lt_bound {n : Nat} (h : n ≤ 1023) : n < bound := by
  unfold bound
  exact lt_two_pow (k := 1023) h

/-- Small numbers are multiplied by one, as a power of ten; the others are rounded as decimals. -/
theorem isInf_ofNat {n : Nat} (h : n < bound) : (Float.ofNat n).isInf = false := by
  change (Float.ofScientific n false 0).isInf = false
  rw [Float.ofScientific]
  split
  · rename_i hsmall
    have hu : Within 1 n.toUInt64.toFloat.toModel.unpack := by
      have hn : n.toUInt64.toNat < 2 ^ 53 := Nat.lt_of_le_of_lt (Nat.mod_le _ _) hsmall.1
      exact within_unpack_pack (within_ofNat hn) (by omega) (by omega)
    have hv : Within 0 Float.exactlyRepresentablePowersOfTen[0].toModel.unpack :=
      .finite (m := 2 ^ 52) (e := -52) (by decide) (by decide)
    exact isInf_pack (within_mul hu hv (by omega)) (by omega) (by omega)
  · exact isInf_pack (within_ofScientific (log2_le_of_lt h)) (by omega) (by omega)

/-- **Natural numbers below the bound are converted.** -/
theorem exists_ofInt {n : Nat} (h : n < bound) : ∃ x, ofInt? n = some x := by
  refine ⟨Float.ofNat n, ?_⟩
  change (if (Float.ofNat n).isInf = true then none else some (Float.ofNat n)) = _
  rw [isInf_ofNat h]
  rfl

/-- A power with exponent zero is one. -/
theorem power_zero (base : Float) : power base 0 = .ok 1.0 := by
  have hfinite : (Float.ofInt 0).isInf = false := by decide +kernel
  have hzero : toInt (Float.ofInt 0) = 0 := by decide +kernel
  rw [power, ofInt?]
  dsimp only
  rw [hfinite]
  exact if_pos hzero

/-- A power of one is one, if its exponent can be converted. -/
theorem power_one {n : Int} {x : Float} (h : ofInt? n = some x) : power 1.0 n = .ok 1.0 := by
  have hdecode : decode? 1.0 = some ⟨false, 2 ^ 52, -52⟩ := by decide
  have hnan : (1.0 : Float).isNaN = false := by decide
  rw [power, h]
  dsimp only
  by_cases hzero : toInt x = 0
  · rw [if_pos hzero]
  · rw [if_neg hzero, hnan, if_neg nofun, hdecode]
    rfl

end TableDiscovery.Number
