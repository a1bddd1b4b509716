import Mathlib.Tactic.Positivity
import TableDiscovery.Proofs.Number.Limit

/-!
# Doubles and the numbers that they unpack to

The value of a double is read off its bits. That is the number which the double unpacks to, so what
is known of unpacked numbers holds of values: small integers are kept, larger ones are rounded.

* `Number.finite?`, **`decode_eq`**: the value of a double;
* `bounds_of_decode`, `unpack_of_one_le`: the mantissa and the exponent of a value;
* `unpack_pack`: normal numbers are kept;
* `Number.rounded`, **`toInt_ofNat`**: the integer that is left of a converted one.
-/

namespace TableDiscovery.Number

open Float.Model (Format totalExponent UnpackedFloat)
open Float.Model.UnpackedFloat

/-- The bit of a sign. -/
def isNegative : Sign → Bool
  | .negative => true
  | .positive => false

/-- The exact value of an unpacked double that is finite. -/
def finite? : UnpackedFloat → Option Exact
  | .zero s => some ⟨isNegative s, 0, -1074⟩
  | .finite s m e _ => some ⟨isNegative s, m, e⟩
  | .infinity _ | .notANumber => none

/-! ## Values -/

section Fields

variable (b : BitVec Format.binary64.numBits)

theorem toNat_unpackExponent : (unpackExponent b).toNat = b.toNat / 2 ^ 52 % 2048 := by
  rw [unpackExponent, BitVec.toNat_cast, BitVec.extractLsb_toNat, Nat.shiftRight_eq_div_pow]
  rfl

theorem toNat_unpackMantissa : (unpackMantissa b).toNat = b.toNat % 2 ^ 52 := by
  rw [unpackMantissa, BitVec.toNat_cast, BitVec.extractLsb_toNat]
  rfl

theorem isNegative_unpackSign :
    isNegative (.ofBitVec (unpackSign b)) = (b.toNat / 2 ^ 63 == 1) := by
  have hbit : (unpackSign b).toNat = b.toNat / 2 ^ 63 % 2 := by
    rw [unpackSign, BitVec.toNat_cast, BitVec.extractLsb_toNat, Nat.shiftRight_eq_div_pow]
    rfl
  have hlt : b.toNat < 2 ^ 64 := b.isLt
  generalize unpackSign b = s at hbit
  rw [Sign.ofBitVec]
  split
  · rename_i hs
    rw [hs] at hbit
    change 0 = _ at hbit
    rw [eq_comm, isNegative, beq_eq_false_iff_ne]
    omega
  · rename_i hs
    have : s.toNat ≠ 0 := fun h => hs (BitVec.eq_of_toNat_eq h)
    rw [eq_comm, isNegative, beq_iff_eq]
    omega

end Fields

theorem toNat_one_append (m : BitVec 52) : (1#1 ++ m).toNat = 2 ^ 52 + m.toNat := by
  have hm : m.toNat < 2 ^ 52 := m.isLt
  rw [BitVec.toNat_append, ← Nat.shiftLeft_add_eq_or_of_lt hm]
  rfl

/-- **The value of a double is the one that it unpacks to.** -/
theorem decode_eq (x : Float) : decode? x = finite? x.toModel.unpack := by
  have hexponent : x.toBits.toNat / Nat.pow 2 52 % 2048 = _ :=
    (toNat_unpackExponent x.toBits.toBitVec).symm
  have hmantissa : x.toBits.toNat % Nat.pow 2 52 = _ :=
    (toNat_unpackMantissa x.toBits.toBitVec).symm
  have hsign : (x.toBits.toNat / Nat.pow 2 63 == 1) = _ :=
    (isNegative_unpackSign x.toBits.toBitVec).symm
  change _ = finite? (unpack Format.binary64 x.toBits.toBitVec)
  simp only [decode?, unpack, hexponent, hmantissa, hsign]
  generalize @unpackExponent Format.binary64 x.toBits.toBitVec = e
  have hgreatest : e = -1#11 ↔ e.toNat = 2047 := BitVec.toNat_inj.symm
  have hleast : e = 0#11 ↔ e.toNat = 0 := BitVec.toNat_inj.symm
  simp only [hgreatest, hleast]
  split
  · split <;> rfl
  · split
    · rename_i hzero
      split
      · rename_i hm
        rw [hm]
        rfl
      · rw [hzero]
        rfl
    · rw [finite?, toNat_one_append]
      rfl

/-- A double has 53 bits unless it is subnormal. -/
theorem bounds_of_decode {x : Float} {v : Exact} (h : decode? x = some v) :
    v.mantissa < 2 ^ 53 ∧ v.exponent ≤ 971 ∧ (v.exponent = -1074 ∨ 2 ^ 52 ≤ v.mantissa) := by
  have hfraction := Nat.mod_lt x.toBits.toNat (Nat.two_pow_pos 52)
  have hfield := Nat.mod_lt (x.toBits.toNat / Nat.pow 2 52) (Nat.succ_pos 2047)
  unfold decode? at h
  dsimp only at h
  generalize x.toBits.toNat / Nat.pow 2 52 % 2048 = field at h hfield
  change (x.toBits.toNat % Nat.pow 2 52) < 2 ^ 52 at hfraction
  generalize x.toBits.toNat % Nat.pow 2 52 = fraction at h hfraction
  split at h
  · cases h
  · split at h <;> cases h
    · dsimp only
      omega
    · change 2 ^ 52 + fraction < 2 ^ 53 ∧ (field : Int) - 1075 ≤ 971 ∧
        (_ ∨ 2 ^ 52 ≤ 2 ^ 52 + fraction)
      omega

/-- A finite double from one on is positive and not subnormal. -/
theorem unpack_of_one_le {x : Float} (hone : 1.0 ≤ x) (hfinite : x.isFinite = true) :
    ∃ m e hpos, x.toModel.unpack = .finite .positive m e hpos ∧ 2 ^ 52 ≤ m ∧ m < 2 ^ 53 ∧
      -52 ≤ e ∧ e ≤ 971 := by
  have hle : (UnpackedFloat.finite .positive (2 ^ 52) (-52) (by decide)).le x.toModel.unpack =
      true := of_decide_eq_true hone
  change x.toModel.unpack.isFinite = true at hfinite
  cases hx : x.toModel.unpack with
  | notANumber =>
    rw [hx] at hfinite
    cases hfinite
  | infinity =>
    rw [hx] at hfinite
    cases hfinite
  | zero =>
    rw [hx] at hle
    cases hle
  | finite s m e hpos =>
    have hdecode : decode? x = some ⟨isNegative s, m, e⟩ := by rw [decode_eq, hx, finite?]
    obtain ⟨hm, he, hnormal⟩ := bounds_of_decode hdecode
    dsimp only at hm he hnormal
    rw [hx] at hle
    cases s with
    | negative => cases hle
    | positive =>
      have hcompare : ((compare (-52) e).then (compare (2 ^ 52) m)).isLE = true := hle
      refine ⟨m, e, hpos, rfl, ?_⟩
      rcases Int.lt_trichotomy (-52) e with hlt | rfl | hgt
      · omega
      · rw [compare_eq_iff_eq.mpr rfl, Ordering.eq_then, Nat.isLE_compare] at hcompare
        omega
      · rw [compare_gt_iff_gt.mpr hgt] at hcompare
        cases hcompare

/-! ## Packing -/

theorem unpackSign_packComponents (s : Sign) (x : BitVec 11) (y : BitVec 52) :
    Sign.ofBitVec (unpackSign (packComponents Format.binary64 s x y)) = s := by
  have hbit : unpackSign (packComponents Format.binary64 s x y) = s.toBitVec := by
    change (s.toBitVec ++ x ++ y).extractLsb' 63 1 = s.toBitVec
    rw [BitVec.extractLsb'_append_eq_of_le (by decide),
      BitVec.extractLsb'_append_eq_of_le (by decide)]
    cases s <;> rfl
  rw [hbit]
  cases s <;> rfl

/-- A normal number is not changed by packing. -/
theorem unpack_pack {s : Sign} {m : Nat} {e : Int} {hpos : 0 < m} (hm : 2 ^ 52 ≤ m)
    (hm' : m < 2 ^ 53) (he : -1074 ≤ e) (he' : e ≤ 971) :
    (Float.Model.pack (.finite s m e hpos)).unpack = .finite s m e hpos := by
  have hlog : m.log2 + 1 = Format.binary64.mantissaBits := by
    have : m.log2 = 52 := (Nat.log2_eq_iff hpos.ne').mpr ⟨hm, hm'⟩
    rw [this]
    rfl
  have hbiased : ¬ 2 ^ Format.binary64.exponentBits ≤ (e + Format.binary64.exponentBias +
      Format.binary64.mantissaBitsWithoutImplicit).toNat + 1 := by
    change ¬ 2048 ≤ (e + 1023 + 52).toNat + 1
    omega
  have hfield : (BitVec.ofNat 11 (e + Format.binary64.exponentBias + (52 : Nat)).toNat).toNat =
      (e + 1075).toNat := by
    change (e + 1023 + 52).toNat % 2048 = (e + 1075).toNat
    omega
  -- the exponent is written as it is, and not as that of infinity or of a subnormal number
  have hgreatest : BitVec.ofNat 11 (e + Format.binary64.exponentBias + (52 : Nat)).toNat ≠
      -1#11 := by
    intro h
    have hmost : _ = 2047 := congrArg BitVec.toNat h
    omega
  have hleast : BitVec.ofNat 11 (e + Format.binary64.exponentBias + (52 : Nat)).toNat ≠ 0#11 := by
    intro h
    have hzero : _ = 0 := congrArg BitVec.toNat h
    omega
  have hmantissa : (1#1 ++ BitVec.ofNat 52 m).toNat = m := by
    rw [toNat_one_append, BitVec.toNat_ofNat]
    omega
  change unpack Format.binary64 (pack Format.binary64 (.finite s m e hpos)) = _
  simp only [pack, if_neg hbiased, if_pos hlog, unpack, unpackMantissa_packComponents,
    unpackExponent_packComponents, unpackSign_packComponents, if_neg hgreatest, if_neg hleast,
    hmantissa, hfield]
  congr 1
  change ((e + 1075).toNat : Int) - (1023 + 52) = e
  omega

theorem unpack_pack_of_isInf {s : Sign} {m : Nat} {e : Int} {hpos : 0 < m} (hm : 2 ^ 52 ≤ m)
    (hm' : m < 2 ^ 53) (he : -1074 ≤ e)
    (hfinite : (Float.Model.pack (.finite s m e hpos)).isInf = false) :
    (Float.Model.pack (.finite s m e hpos)).unpack = .finite s m e hpos :=
  unpack_pack hm hm' he <| Int.not_lt.mp fun hlt =>
    Bool.false_ne_true (hfinite.symm.trans (isInf_pack_of_le hlt))

/-! ## Small integers -/

theorem roundDiv_mul (m : Nat) {d : Nat} (hd : 0 < d) : roundDiv (m * d) d = m := by
  rw [roundDiv, Nat.mul_div_cancel m hd, Nat.mul_mod_left]
  exact if_neg (by simp; omega)

/-- A multiple of a number of 53 bits is that number after rounding. -/
theorem round_mul {s : Sign} {m k : Nat} {e : Int} (hm : 2 ^ 52 ≤ m) (hm' : m < 2 ^ 53)
    (he : -1074 ≤ e + k) : ∃ hpos,
      roundWithAccuracy Format.binary64 s (m * 2 ^ k) e .exact = .finite s m (e + k) hpos := by
  have hlog : (m * 2 ^ k).log2 = 52 + k := by
    have : m.log2 = 52 := (Nat.log2_eq_iff (by omega)).mpr ⟨hm, hm'⟩
    rw [← Nat.shiftLeft_eq, log2_shiftLeft (by omega), this]
  have hround := (round_eq s hlog he).2.1
  rw [roundDiv_mul m (Nat.two_pow_pos k)] at hround
  exact hround hm'

/-- A number that has 53 bits at most is moved to the left, and none is lost. -/
theorem ofNat_eq_finite {n : Nat} (hn : n ≠ 0) (h : n < 2 ^ 53) :
    2 ^ 52 ≤ n * 2 ^ (52 - n.log2) ∧ n * 2 ^ (52 - n.log2) < 2 ^ 53 ∧ ∃ hpos,
      UnpackedFloat.ofNat Format.binary64 n =
        .finite .positive (n * 2 ^ (52 - n.log2)) (n.log2 - 52) hpos := by
  have hlog : n.log2 ≤ 52 := Nat.le_of_lt_succ ((Nat.log2_lt hn).mpr h)
  have hscaled : (n * 2 ^ (52 - n.log2)).log2 = 52 := by
    rw [← Nat.shiftLeft_eq, log2_shiftLeft hn]
    omega
  obtain ⟨hm, hm'⟩ := (Nat.log2_eq_iff (by positivity)).mp hscaled
  obtain ⟨hpos, hround⟩ :=
    round_mul (s := .positive) (k := 0) (e := (n.log2 : Int) - 52) hm hm' (by omega)
  refine ⟨hm, hm', hpos, ?_⟩
  have hcompare : compare (n : Int) 0 = .gt :=
    compare_gt_iff_gt.mpr (Int.natCast_pos.mpr (Nat.pos_of_ne_zero hn))
  have htarget : Format.binary64.targetExponent (totalExponent n 0) = (n.log2 : Int) - 52 := by
    change max ((n.log2 : Int) + 1 + 0 - 53) (3 - 1024 - 53) = _
    omega
  have hamount : (0 - ((n.log2 : Int) - 52)).toNat = 52 - n.log2 := by omega
  have hexponent : (0 : Int) - (52 - n.log2 : Nat) = n.log2 - 52 := by omega
  simp only [UnpackedFloat.ofNat, UnpackedFloat.ofInt, UnpackedFloat.normalize, hcompare,
    UnpackedFloat.round, UnpackedFloat.decreaseExponent, Int.toNat_natCast, htarget, hamount,
    hexponent, Nat.shiftLeft_eq]
  simpa using hround

theorem unpack_mul (a b : Float) : (a * b).toModel.unpack =
    (Float.Model.pack (mul Format.binary64 a.toModel.unpack b.toModel.unpack)).unpack := rfl

theorem unpack_one : Float.exactlyRepresentablePowersOfTen[0].toModel.unpack =
    .finite .positive (2 ^ 52) (-52) (by decide) := rfl

/-- Such a number is then multiplied by one, as a power of ten. -/
theorem unpack_ofNat {n : Nat} (hn : n ≠ 0) (h : n < 2 ^ 53) : ∃ hpos,
    (Float.ofNat n).toModel.unpack =
      .finite .positive (n * 2 ^ (52 - n.log2)) (n.log2 - 52) hpos := by
  obtain ⟨hm, hm', hpos, hofNat⟩ := ofNat_eq_finite hn h
  have hlog : n.log2 ≤ 52 := Nat.le_of_lt_succ ((Nat.log2_lt hn).mpr h)
  have hword : n.toUInt64.toNat = n := Nat.mod_eq_of_lt (by omega)
  have hfirst : n.toUInt64.toFloat.toModel.unpack =
      .finite .positive (n * 2 ^ (52 - n.log2)) (n.log2 - 52) hpos := by
    change (Float.Model.pack (UnpackedFloat.ofNat Format.binary64 n.toUInt64.toNat)).unpack = _
    rw [hword, hofNat]
    exact unpack_pack hm hm' (by omega) (by omega)
  obtain ⟨hpos', hround⟩ := round_mul (s := .positive) (k := 52) (e := (n.log2 : Int) - 52 + -52)
    hm hm' (by omega)
  refine ⟨hpos', ?_⟩
  change (Float.ofScientific n false 0).toModel.unpack = _
  rw [Float.ofScientific, dif_pos ⟨h, by decide⟩, if_neg Bool.false_ne_true, unpack_mul, hfirst,
    unpack_one]
  have hmul : mul Format.binary64
      (.finite .positive (n * 2 ^ (52 - n.log2)) (n.log2 - 52) hpos)
      (.finite .positive (2 ^ 52) (-52) (by decide)) =
      .finite .positive (n * 2 ^ (52 - n.log2)) (n.log2 - 52) hpos' := by
    refine hround.trans ?_
    congr 1
    omega
  rw [hmul]
  exact unpack_pack hm hm' (by omega) (by omega)

/-! ## Rounded integers -/

theorem roundDiv_mul_mul (m d : Nat) {c : Nat} (hc : 0 < c) :
    roundDiv (m * c) (d * c) = roundDiv m d := by
  have htwice (r : Nat) : 2 * (r * c) = 2 * r * c := (Nat.mul_assoc ..).symm
  simp only [roundDiv, Nat.mul_div_mul_right _ _ hc, Nat.mul_mod_mul_right, htwice, gt_iff_lt,
    Nat.mul_lt_mul_right hc, beq_eq_decide, Nat.mul_left_inj hc.ne']

/-- The bits beyond the first 53 ones. -/
def extraBits (n : Nat) : Nat := n.log2 - 52

/-- A number rounded to 53 bits, a tie to the even one. -/
def rounded (n : Nat) : Nat := roundDiv n (2 ^ extraBits n) * 2 ^ extraBits n

/-- The bits that stand behind a number before it is rounded make no difference. -/
theorem roundDiv_shiftLeft {n : Nat} (h : 2 ^ 52 ≤ n) :
    roundDiv (n <<< 53) (2 ^ (n.log2 + 1)) = roundDiv n (2 ^ extraBits n) := by
  have hlog : 52 ≤ n.log2 := le_log2 (by omega) h
  have hsplit : n.log2 + 1 = extraBits n + 53 := by
    rw [extraBits]
    omega
  rw [hsplit, Nat.shiftLeft_eq, Nat.pow_add, roundDiv_mul_mul _ _ (Nat.two_pow_pos 53)]

theorem two_pow_le_roundDiv {n : Nat} (h : 2 ^ 52 ≤ n) :
    2 ^ 52 ≤ roundDiv n (2 ^ extraBits n) := by
  have hn : n ≠ 0 := by omega
  have hlog : 52 ≤ n.log2 := le_log2 hn h
  have hextra : 52 + extraBits n = n.log2 := by
    rw [extraBits]
    omega
  refine Nat.le_trans ?_ (roundDiv_bounds _ _).1
  rw [Nat.le_div_iff_mul_le (Nat.two_pow_pos _), ← Nat.pow_add, hextra]
  exact Nat.log2_self_le hn

theorem two_pow_le_rounded {n : Nat} (h : 2 ^ 52 ≤ n) : 2 ^ 52 ≤ rounded n :=
  (two_pow_le_roundDiv h).trans (Nat.le_mul_of_pos_right _ (Nat.two_pow_pos _))

theorem rounded_of_lt {n : Nat} (h : n < 2 ^ 53) : rounded n = n := by
  have hlog : extraBits n = 0 := Nat.sub_eq_zero_of_le (log2_le_of_lt h)
  rw [rounded, hlog, Nat.pow_zero, Nat.mul_one]
  exact (congrArg (roundDiv · 1) (Nat.mul_one n).symm).trans (roundDiv_mul n Nat.one_pos)

/-- A positive double without its fraction. -/
theorem toInt_of_unpack {x : Float} {m : Nat} {e : Int} {hpos : 0 < m}
    (h : x.toModel.unpack = .finite .positive m e hpos) :
    toInt x = (m * 2 ^ e.toNat / 2 ^ (-e).toNat : Nat) := by
  have hdecode : decode? x = some ⟨false, m, e⟩ := by rw [decode_eq, h, finite?, isNegative]
  rw [toInt, hdecode]
  dsimp only
  rw [if_neg Bool.false_ne_true, powQuotient]
  split
  · have hneg : (-e).toNat = 0 := by omega
    rw [hneg]
    rfl
  · have hneg : e.toNat = 0 := by omega
    rw [hneg]
    rfl

/-- A larger number is rounded, and a carry makes it the next power of two. -/
theorem unpack_ofNat_of_le {n : Nat} (h : 2 ^ 53 ≤ n) (hlimit : n < limit) :
    ∃ m e hpos, (Float.ofNat n).toModel.unpack = .finite .positive m e hpos ∧ 0 < e ∧
      m * 2 ^ e.toNat = rounded n := by
  have hn : n ≠ 0 := by omega
  have hlog : 53 ≤ n.log2 := le_log2 hn h
  have hextra : (extraBits n : Int) = n.log2 - 52 := by
    rw [extraBits]
    omega
  obtain ⟨hle, hbelow, hcarry⟩ := round_eq (e := -53) .positive
    (show (n <<< 53).log2 = 52 + (n.log2 + 1) by rw [log2_shiftLeft hn]; omega) (by omega)
  rw [roundDiv_shiftLeft (by omega)] at hle hbelow hcarry
  have hfinite : (Float.ofNat n).isInf = false := by
    rw [Bool.eq_false_iff, Ne, isInf_ofNat_iff]
    exact Nat.not_le_of_lt hlimit
  rw [ofNat_eq h] at hfinite ⊢
  rcases Nat.lt_or_eq_of_le hle with hlt | heq
  · obtain ⟨hpos, hround⟩ := hbelow hlt
    rw [hround] at hfinite ⊢
    refine ⟨_, _, hpos, unpack_pack_of_isInf (two_pow_le_roundDiv (by omega)) hlt (by omega)
      hfinite, by omega, ?_⟩
    have hexponent : (-53 + (n.log2 + 1 : Nat) : Int).toNat = extraBits n := by omega
    rw [hexponent, rounded]
  · obtain ⟨hpos, hround⟩ := hcarry heq
    rw [hround] at hfinite ⊢
    refine ⟨_, _, hpos, unpack_pack_of_isInf (Nat.le_refl _) (by decide) (by omega) hfinite,
      by omega, ?_⟩
    have hexponent : (-53 + (n.log2 + 1 : Nat) + 1 : Int).toNat = extraBits n + 1 := by omega
    rw [hexponent, rounded, heq, Nat.pow_succ]
    omega

/-- **A converted integer has been rounded to 53 bits.** -/
theorem toInt_ofNat {n : Nat} (h : n < limit) : toInt (Float.ofNat n) = rounded n := by
  rcases Nat.eq_zero_or_pos n with rfl | hn
  · decide +kernel
  rcases Nat.lt_or_ge n (2 ^ 53) with hlt | hge
  · obtain ⟨hpos, hunpack⟩ := unpack_ofNat hn.ne' hlt
    have hlog := log2_le_of_lt hlt
    have hexponent : ((n.log2 : Int) - 52).toNat = 0 := by omega
    have hexponent' : (-((n.log2 : Int) - 52)).toNat = 52 - n.log2 := by omega
    rw [toInt_of_unpack hunpack, rounded_of_lt hlt, hexponent, hexponent', Nat.pow_zero,
      Nat.mul_one, Nat.mul_div_cancel _ (Nat.two_pow_pos _)]
  · obtain ⟨m, e, hpos, hunpack, he, hvalue⟩ := unpack_ofNat_of_le hge h
    have hexponent : (-e).toNat = 0 := by omega
    rw [toInt_of_unpack hunpack, hexponent, hvalue, Nat.pow_zero, Nat.div_one]

end TableDiscovery.Number
