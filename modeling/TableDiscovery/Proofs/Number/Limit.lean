import Mathlib.Tactic.Ring
import TableDiscovery.Proofs.Number.Conversion

/-!
# The least integer without a double

An integer is rounded to 53 bits, a tie to the even neighbour. It has no double just if that takes
it to the next power of two above the greatest one.

* `Number.Represents`, `Represents.roundedMantissa`: the bits that are kept for rounding say how a
  quotient is rounded;
* `le_roundDiv_iff`: when rounding reaches an even number;
* `Number.limit`, **`exists_ofInt_iff`**: exactly the integers below it are converted.
-/

namespace TableDiscovery.Number

open Float.Model (Format totalExponent UnpackedFloat)
open Float.Model.UnpackedFloat

/-! ## Rounding bits -/

/-- A mantissa with its rounding bits says how a quotient is rounded. -/
structure Represents (em : ExtendedMantissa) (num den : Nat) : Prop where
  mantissa : em.mantissa = num / den
  roundBit : em.roundBit = true ↔ den ≤ 2 * (num % den)
  stickyBit : em.stickyBit = true ↔ num % den ≠ 0 ∧ 2 * (num % den) ≠ den

variable {em : ExtendedMantissa} {num den : Nat}

theorem represents_exact (m : Nat) :
    Represents (.ofMantissaAndAccuracy m .exact) m 1 where
  mantissa := (Nat.div_one m).symm
  roundBit := by simp [ExtendedMantissa.ofMantissaAndAccuracy, Nat.mod_one]
  stickyBit := by simp [ExtendedMantissa.ofMantissaAndAccuracy, Nat.mod_one]

theorem Represents.shiftRightOne (h : Represents em num den) (hden : 0 < den) :
    Represents em.shiftRightOne num (den * 2) := by
  have hr := Nat.mod_lt num hden
  have hrest : num % (den * 2) = num % den + den * (num / den % 2) := Nat.mod_mul
  have hbit : num / den % 2 = 0 ∨ num / den % 2 = 1 := Nat.mod_two_eq_zero_or_one _
  constructor
  · rw [ExtendedMantissa.shiftRightOne, h.mantissa, Nat.div_div_eq_div_mul]
  · rw [ExtendedMantissa.shiftRightOne, h.mantissa, bne_iff_ne, hrest]
    rcases hbit with hbit | hbit <;> rw [hbit] <;> omega
  · rw [ExtendedMantissa.shiftRightOne, Bool.or_eq_true, h.roundBit, h.stickyBit, hrest]
    rcases hbit with hbit | hbit <;> rw [hbit] <;> omega

theorem represents_shift (m k : Nat) :
    Represents (ExtendedMantissa.ofMantissaAndAccuracy m .exact >>> k) m (2 ^ k) := by
  induction k with
  | zero => exact represents_exact m
  | succ k ih => exact ih.shiftRightOne (Nat.two_pow_pos k)

/-- **The rounding bits round to the nearest number**, a tie to the even one. -/
theorem Represents.roundedMantissa (h : Represents em num den) (hden : 0 < den) :
    em.roundedMantissa = roundDiv num den := by
  have hr := Nat.mod_lt num hden
  obtain ⟨hmantissa, hround, hsticky⟩ := h
  obtain ⟨m, r, s⟩ := em
  dsimp only at hmantissa hround hsticky
  subst hmantissa
  rw [roundDiv]
  cases r <;> cases s <;>
    simp only [Bool.false_eq_true, false_iff, true_iff, ExtendedMantissa.roundedMantissa,
      ExtendedMantissa.accuracy, Accuracy.roundToNearestEven, Bool.or_eq_true, Bool.and_eq_true,
      decide_eq_true_eq, beq_iff_eq] at hround hsticky ⊢ <;>
    split <;> omega

/-- Rounding reaches an even number from half a unit below it on. -/
theorem le_roundDiv_iff {q : Nat} (hden : 0 < den) (heven : q % 2 = 0) (hq : 0 < q) :
    q ≤ roundDiv num den ↔ (2 * q - 1) * den ≤ 2 * num := by
  have hr := Nat.mod_lt num hden
  have hnum : num / den * den + num % den = num := Nat.div_add_mod' num den
  have hhalf : (2 * q - 1) * den = 2 * (q * den) - den := by
    rw [Nat.sub_mul, Nat.one_mul, Nat.mul_assoc]
  rw [hhalf, roundDiv]
  simp only [Bool.or_eq_true, Bool.and_eq_true, decide_eq_true_eq, beq_iff_eq]
  rcases Nat.lt_trichotomy (num / den + 1) q with hlt | rfl | hgt
  · have hle : (num / den + 2) * den ≤ q * den := Nat.mul_le_mul_right den hlt
    rw [Nat.add_mul] at hle
    refine iff_of_false ?_ (by omega)
    split <;> omega
  · rw [Nat.add_mul, Nat.one_mul]
    split <;> omega
  · have hle : q * den ≤ num / den * den := Nat.mul_le_mul_right den (Nat.le_of_lt_succ hgt)
    refine iff_of_true ?_ (by omega)
    split <;> omega

theorem roundDiv_bounds (num den : Nat) :
    num / den ≤ roundDiv num den ∧ roundDiv num den ≤ num / den + 1 := by
  rw [roundDiv]
  split <;> omega

/-! ## Rounding to 53 bits -/

section Round

variable {m k : Nat} {e : Int}

/-- A mantissa of more than 53 bits is cut to that many. -/
theorem shift_eq (hm : m.log2 = 52 + k) (he : -1074 ≤ e + k) :
    shiftToTargetExponent Format.binary64 m e .exact =
      (ExtendedMantissa.ofMantissaAndAccuracy m .exact >>> k, e + k) := by
  have htarget : Format.binary64.targetExponent (totalExponent m e) = e + k := by
    change max ((m.log2 : Int) + 1 + e - 53) (-1074) = _
    omega
  rw [shiftToTargetExponent, htarget, shiftToExponent]
  have hamount : (e + k - e).toNat = k := by omega
  rw [hamount]

/-- The mantissa is rounded, and if that takes one more bit the exponent is raised. -/
theorem round_eq (s : Sign) (hm : m.log2 = 52 + k) (he : -1074 ≤ e + k) :
    roundDiv m (2 ^ k) ≤ 2 ^ 53 ∧
      (roundDiv m (2 ^ k) < 2 ^ 53 → ∃ hpos, roundWithAccuracy Format.binary64 s m e .exact =
        .finite s (roundDiv m (2 ^ k)) (e + k) hpos) ∧
      (roundDiv m (2 ^ k) = 2 ^ 53 → ∃ hpos, roundWithAccuracy Format.binary64 s m e .exact =
        .finite s (2 ^ 52) (e + k + 1) hpos) := by
  have hpow : 0 < 2 ^ k := Nat.two_pow_pos k
  have hne : m ≠ 0 := by
    rintro rfl
    rw [Nat.log2_zero] at hm
    omega
  have hquotient : 2 ^ 52 ≤ m / 2 ^ k ∧ m / 2 ^ k < 2 ^ 53 := by
    rw [Nat.le_div_iff_mul_le hpow, Nat.div_lt_iff_lt_mul hpow, ← Nat.pow_add, ← Nat.pow_add]
    refine ⟨(Nat.le_log2 hne).mp (by omega), (Nat.log2_lt hne).mp (by omega)⟩
  obtain ⟨hle, hlt⟩ := roundDiv_bounds m (2 ^ k)
  have hround : roundWithAccuracy Format.binary64 s m e .exact =
      let shifted := shiftToTargetExponent Format.binary64 (roundDiv m (2 ^ k)) (e + k) .exact
      if h : shifted.1.mantissa = 0 then .zero s
      else .finite s shifted.1.mantissa shifted.2 (Nat.pos_of_ne_zero h) := by
    rw [roundWithAccuracy, shift_eq hm he]
    dsimp only
    rw [(represents_shift m k).roundedMantissa hpow]
  rw [hround]
  generalize roundDiv m (2 ^ k) = q at hle hlt ⊢
  have hfinal {j r : Nat} (hlog : q.log2 = 52 + j) (hr : q / 2 ^ j = r) (hpos : 0 < r) :
      (let shifted := shiftToTargetExponent Format.binary64 q (e + k) .exact
        if h : shifted.1.mantissa = 0 then .zero s
        else .finite s shifted.1.mantissa shifted.2 (Nat.pos_of_ne_zero h)) =
      UnpackedFloat.finite s r (e + k + j) hpos := by
    have hmantissa : (ExtendedMantissa.ofMantissaAndAccuracy q .exact >>> j).mantissa = r := by
      rw [mantissa_shift, mantissa_ofMantissaAndAccuracy, hr]
    simp only [shift_eq hlog (show -1074 ≤ e + k + j by omega), hmantissa, Nat.ne_of_gt hpos]
    rfl
  have hbounds : 2 ^ 52 ≤ q ∧ q ≤ 2 ^ 53 := by omega
  refine ⟨hbounds.2, fun hq => ?_, fun hq => ?_⟩
  · have hlog : q.log2 = 52 + 0 := (Nat.log2_eq_iff (by omega)).mpr ⟨hbounds.1, hq⟩
    exact ⟨by omega, (hfinal hlog (Nat.div_one q) (by omega)).trans (by simp)⟩
  · subst hq
    exact ⟨by decide, hfinal (j := 1) Nat.log2_two_pow (by decide) (by decide)⟩

end Round

/-! ## Converted integers -/

/-- The integer half a unit above the greatest double. -/
def limit : Nat := (2 ^ 54 - 1) * 2 ^ 970

/-- The powers of two around such a number. -/
theorem two_pow_le_ones_mul {j k : Nat} (h : j ≤ 53 + k) : 2 ^ j ≤ (2 ^ 54 - 1) * 2 ^ k := by
  refine (Nat.pow_le_pow_right Nat.two_pos h).trans ?_
  rw [Nat.pow_add]
  exact Nat.mul_le_mul_right _ (by decide)

theorem ones_mul_le_two_pow {j k : Nat} (h : 54 + k ≤ j) : (2 ^ 54 - 1) * 2 ^ k ≤ 2 ^ j := by
  refine Nat.le_trans ?_ (Nat.pow_le_pow_right Nat.two_pos h)
  rw [Nat.pow_add]
  exact Nat.mul_le_mul_right _ (by decide)

theorem two_pow_mono {j k : Nat} (h : j ≤ k) : 2 ^ j ≤ 2 ^ k :=
  Nat.pow_le_pow_right Nat.two_pos h

theorem le_log2 {n k : Nat} (hn : n ≠ 0) (h : 2 ^ k ≤ n) : k ≤ n.log2 := (Nat.le_log2 hn).mpr h

theorem le_bound {k : Nat} (h : k ≤ 1023) : 2 ^ k ≤ bound := by
  unfold bound
  exact two_pow_mono (k := 1023) h

theorem bound_le_limit : bound ≤ limit := by
  unfold bound limit
  exact two_pow_le_ones_mul (j := 1023) (k := 970) (by decide)

theorem lt_limit {n : Nat} (h : n ≤ 1023) : n < limit := (lt_bound h).trans_le bound_le_limit

theorem limit_le {k : Nat} (h : 1024 ≤ k) : limit ≤ 2 ^ k := by
  unfold limit
  exact ones_mul_le_two_pow (k := 970) h

theorem limit_le_ten {k : Nat} (h : 1024 ≤ k) : limit ≤ Nat.pow 10 k :=
  (limit_le h).trans (Nat.pow_le_pow_left (by decide) k)

theorem isInf_pack_of_le {s : Sign} {m : Nat} {e : Int} {hm : 0 < m} (he : 972 ≤ e) :
    (Float.Model.pack (.finite s m e hm)).isInf = true := by
  change (unpack Format.binary64 (pack Format.binary64 (.finite s m e hm))).isInf = true
  have hbiased : 2 ^ Format.binary64.exponentBits ≤ (e + Format.binary64.exponentBias +
      Format.binary64.mantissaBitsWithoutImplicit).toNat + 1 := by
    change 2048 ≤ (e + 1023 + 52).toNat + 1
    omega
  simp only [pack, if_pos hbiased]
  cases s <;> decide

theorem log2_shiftLeft {n : Nat} (hn : n ≠ 0) (k : Nat) : (n <<< k).log2 = n.log2 + k := by
  rw [Nat.shiftLeft_eq, Nat.log2_eq_iff (Nat.mul_ne_zero hn (Nat.two_pow_pos k).ne'), Nat.pow_add,
    Nat.add_right_comm, Nat.pow_add]
  exact ⟨Nat.mul_le_mul_right _ (Nat.log2_self_le hn),
    Nat.mul_lt_mul_of_pos_right Nat.lt_log2_self (Nat.two_pow_pos k)⟩

/-- Large numbers are rounded once. -/
theorem ofNat_eq {n : Nat} (h : 2 ^ 53 ≤ n) : Float.ofNat n =
    .ofModel (.pack (roundWithAccuracy Format.binary64 .positive (n <<< 53) (-53) .exact)) := by
  have hn : n ≠ 0 := by omega
  have hsmall : ¬ (n < 2 ^ 53 ∧ 0 ≤ 22) := by omega
  change Float.ofScientific n false 0 = _
  rw [Float.ofScientific, dif_neg hsmall, ← ofScientific_eq hn]
  rfl

/-- The first 53 bits are rounded up to the next power of two. -/
theorem ones_mul_le_iff {n k : Nat} :
    (2 ^ 54 - 1) * 2 ^ k ≤ n ↔ 2 ^ 53 ≤ roundDiv (n <<< 53) (2 ^ (k + 54)) := by
  have hhalf : (2 * 2 ^ 53 - 1) * 2 ^ (k + 54) = (2 ^ 54 - 1) * 2 ^ k * 2 ^ 54 := by
    rw [Nat.pow_add, Nat.mul_assoc]
    rfl
  have hnum : 2 * n <<< 53 = n * 2 ^ 54 := by
    rw [Nat.shiftLeft_eq]
    omega
  rw [le_roundDiv_iff (Nat.two_pow_pos _) (by decide) (by decide), hhalf, hnum]
  exact (Nat.mul_le_mul_right_iff (by decide)).symm

/-- **The double next to a natural number is infinite from the limit on.** -/
theorem isInf_ofNat_iff (n : Nat) : (Float.ofNat n).isInf = true ↔ limit ≤ n := by
  rcases Nat.lt_or_ge n bound with hlt | hge
  · rw [isInf_ofNat hlt]
    exact iff_of_false nofun (Nat.not_le_of_lt (Nat.lt_of_lt_of_le hlt bound_le_limit))
  have hlarge : 2 ^ 53 ≤ n := (le_bound (by decide)).trans hge
  have hn : n ≠ 0 := by omega
  have hlog : 1023 ≤ n.log2 := by
    unfold bound at hge
    exact le_log2 (k := 1023) hn hge
  obtain ⟨hle, hbelow, hcarry⟩ := round_eq (e := -53) .positive
    (show (n <<< 53).log2 = 52 + (n.log2 + 1) by rw [log2_shiftLeft hn]; omega) (by omega)
  rw [ofNat_eq hlarge]
  rcases Nat.eq_or_lt_of_le hlog with htop | htop
  · have hk : n.log2 + 1 = 970 + 54 := by omega
    have hiff : limit ≤ n ↔ 2 ^ 53 ≤ roundDiv (n <<< 53) (2 ^ (n.log2 + 1)) := by
      rw [hk, limit]
      exact ones_mul_le_iff
    rw [hiff]
    rcases Nat.eq_or_lt_of_le hle with hq | hq
    · obtain ⟨hpos, hround⟩ := hcarry hq
      rw [hround]
      exact iff_of_true (isInf_pack_of_le (by omega)) (Nat.le_of_eq hq.symm)
    · obtain ⟨hpos, hround⟩ := hbelow hq
      rw [hround]
      refine iff_of_false (Bool.eq_false_iff.mp ?_) (Nat.not_le_of_lt hq)
      exact isInf_pack (b := 971) (.finite hq (by omega)) (by decide) (Int.le_refl 971)
  · refine iff_of_true ?_ ((limit_le htop).trans (Nat.log2_self_le hn))
    rcases Nat.eq_or_lt_of_le hle with hq | hq
    · obtain ⟨hpos, hround⟩ := hcarry hq
      rw [hround]
      exact isInf_pack_of_le (by omega)
    · obtain ⟨hpos, hround⟩ := hbelow hq
      rw [hround]
      exact isInf_pack_of_le (by omega)

theorem ofInt_of_lt {n : Nat} (h : n < limit) : ofInt? n = some (Float.ofNat n) := by
  change (if (Float.ofNat n).isInf = true then none else some (Float.ofNat n)) = _
  exact if_neg (mt (isInf_ofNat_iff n).mp (Nat.not_le_of_lt h))

theorem ofInt_of_limit_le {n : Nat} (h : limit ≤ n) : ofInt? n = none := by
  change (if (Float.ofNat n).isInf = true then none else some (Float.ofNat n)) = _
  exact if_pos ((isInf_ofNat_iff n).mpr h)

/-- **Exactly the natural numbers below the limit are converted.** -/
theorem exists_ofInt_iff {n : Int} (h : 0 ≤ n) : (∃ x, ofInt? n = some x) ↔ n < limit := by
  obtain ⟨k, rfl⟩ := Int.eq_ofNat_of_zero_le h
  rw [Int.ofNat_lt]
  rcases Nat.lt_or_ge k limit with hlt | hge
  · exact iff_of_true ⟨_, ofInt_of_lt hlt⟩ hlt
  · rw [ofInt_of_limit_le hge]
    exact iff_of_false (by rintro ⟨x, ⟨⟩⟩) (Nat.not_lt_of_le hge)

end TableDiscovery.Number
