import Mathlib.Tactic.Linarith
import Mathlib.Tactic.NormNum
import TableDiscovery.Proofs.Number.Unpacked

/-!
# Which powers have a value

A power is compared with the greatest double in numbers of some hundred bits. Each product drops the
bits beyond that width, so that a power may come out too small, but not by more than a hair for each
of its factors.

* `Number.Wide.value`, `Number.Wide.Near`: what is left of a product after some cuts;
* `Wide.near_trim`, `Wide.Near.mul`, **`Wide.near_pow`**: one cut, one product and all of a power;
* `Wide.le_iff`, `overflows_bounds`: when a power is refused;
* **`power_of_one_le`**, `exists_power_two_iff`: the powers of numbers from one on, and of two.
-/

namespace TableDiscovery.Number

/-! ## Products and powers of wide numbers -/

/-- The lowest bit comes last. -/
theorem bitsOf_of_two_le {n : Nat} (h : 2 ≤ n) : bitsOf n = bitsOf (n / 2) ++ [n % 2 == 1] := by
  have hlast : (Nat.digitChar (n % 2) == '1') = (n % 2 == 1) := by
    rcases Nat.mod_two_eq_zero_or_one n with hn | hn <;> rw [hn] <;> rfl
  rw [bitsOf, bitsOf, Nat.toDigits_of_base_le Nat.one_lt_two h, List.map_append, List.map_cons,
    List.map_nil, hlast]

namespace Wide

/-- The number itself. -/
def value (w : Wide) : ℚ := w.mantissa * 2 ^ w.exponent

/-- What a product keeps at least of its value. -/
def kept : ℚ := 1 - 1 / 2 ^ width

theorem kept_pos : 0 < kept := by
  have : (1 : ℚ) < 2 ^ width := one_lt_pow₀ (by norm_num) (by decide)
  rw [kept, sub_pos, div_lt_one (by positivity)]
  exact this

theorem kept_le_one : kept ≤ 1 := by
  rw [kept, sub_le_self_iff]
  positivity

/-- A number of some hundred bits close below a value: what `cuts` products keep of it, at least. -/
structure Near (cuts : Nat) (x : ℚ) (w : Wide) : Prop where
  pos : 0 < w.mantissa
  lt : w.mantissa < 2 ^ (width + 1)
  le : w.value ≤ x
  ge : kept ^ cuts * x ≤ w.value

variable {a b w : Wide} {m n : Nat} {x y : ℚ}

theorem value_pos (h : 0 < w.mantissa) : 0 < w.value := by
  have : (0 : ℚ) < w.mantissa := Nat.cast_pos.mpr h
  unfold value
  positivity

theorem near_self (hpos : 0 < w.mantissa) (hlt : w.mantissa < 2 ^ (width + 1)) :
    Near 0 w.value w where
  pos := hpos
  lt := hlt
  le := le_refl _
  ge := by rw [pow_zero, one_mul]

theorem Near.mono (h : Near m x w) (hmn : m ≤ n) : Near n x w where
  pos := h.pos
  lt := h.lt
  le := h.le
  ge := by
    have hx : 0 ≤ x := (value_pos h.pos).le.trans h.le
    exact (mul_le_mul_of_nonneg_right (pow_le_pow_of_le_one kept_pos.le kept_le_one hmn) hx).trans
      h.ge

/-- The bits beyond the width are less than one in the last place. -/
theorem cut_bounds {m k : Nat} (hm : 0 < m) (hk : m.log2 - width = k) :
    0 < m / 2 ^ k ∧ m / 2 ^ k < 2 ^ (width + 1) ∧ kept * m ≤ (m / 2 ^ k * 2 ^ k : Nat) := by
  have hpow := Nat.two_pow_pos k
  have hlt : m / 2 ^ k < 2 ^ (width + 1) := by
    rw [Nat.div_lt_iff_lt_mul hpow, ← Nat.pow_add]
    exact Nat.lt_log2_self.trans_le (Nat.pow_le_pow_right Nat.two_pos (by omega))
  rcases Nat.eq_zero_or_pos k with rfl | hk'
  · rw [Nat.pow_zero, Nat.div_one, Nat.mul_one]
    rw [Nat.pow_zero, Nat.div_one] at hlt
    exact ⟨hm, hlt, mul_le_of_le_one_left (Nat.cast_nonneg _) kept_le_one⟩
  · have hlog : width + k = m.log2 := by omega
    have hlarge : 2 ^ width * 2 ^ k ≤ m := by
      rw [← Nat.pow_add, hlog]
      exact Nat.log2_self_le hm.ne'
    have hplace : (2 ^ k : ℚ) ≤ 1 / 2 ^ width * m := by
      rw [one_div, le_inv_mul_iff₀ (by positivity)]
      exact_mod_cast hlarge
    have hrest : (m : ℚ) ≤ (m / 2 ^ k * 2 ^ k : Nat) + 2 ^ k := by
      exact_mod_cast (Nat.lt_div_mul_add hpow).le
    refine ⟨Nat.div_pos ?_ hpow, hlt, ?_⟩
    · exact (Nat.le_mul_of_pos_left _ (Nat.two_pow_pos _)).trans hlarge
    · rw [kept, sub_mul, one_mul]
      linarith

theorem near_trim (h : 0 < w.mantissa) : Near 1 w.value w.trim := by
  obtain ⟨m, e⟩ := w
  dsimp only at h
  have htrim : (Wide.mk m e).trim = ⟨m / 2 ^ (m.log2 - width), e + (m.log2 - width : Nat)⟩ := by
    rw [trim, Nat.shiftRight_eq_div_pow]
  rw [htrim]
  generalize hk : m.log2 - width = k
  obtain ⟨hpos, hlt, hkept⟩ := cut_bounds h hk
  have hvalue : (Wide.mk (m / 2 ^ k) (e + k)).value = (m / 2 ^ k * 2 ^ k : Nat) * 2 ^ e := by
    rw [value, zpow_add₀ two_ne_zero, zpow_natCast]
    push_cast
    ring
  have hscale : (0 : ℚ) ≤ 2 ^ e := by positivity
  refine ⟨hpos, hlt, ?_, ?_⟩
  · rw [hvalue, value]
    exact mul_le_mul_of_nonneg_right (Nat.cast_le.mpr (Nat.div_mul_le_self _ _)) hscale
  · rw [hvalue, value, pow_one, ← mul_assoc]
    exact mul_le_mul_of_nonneg_right hkept hscale

/-- A product is cut once more. -/
theorem Near.mul (ha : Near m x a) (hb : Near n y b) : Near (m + n + 1) (x * y) (a.mul b) := by
  have hvalue : (Wide.mk (a.mantissa * b.mantissa) (a.exponent + b.exponent)).value =
      a.value * b.value := by
    simp only [value, zpow_add₀ (two_ne_zero (α := ℚ))]
    push_cast
    ring
  have hcut := near_trim (w := ⟨a.mantissa * b.mantissa, a.exponent + b.exponent⟩)
    (Nat.mul_pos ha.pos hb.pos)
  have hva := value_pos ha.pos
  have hvb := value_pos hb.pos
  rw [hvalue] at hcut
  refine ⟨hcut.pos, hcut.lt, hcut.le.trans ?_, ?_⟩
  · exact mul_le_mul ha.le hb.le hvb.le (hva.le.trans ha.le)
  · calc kept ^ (m + n + 1) * (x * y)
        = kept ^ 1 * ((kept ^ m * x) * (kept ^ n * y)) := by ring
      _ ≤ kept ^ 1 * (a.value * b.value) := by
          have := kept_pos
          have hy : 0 ≤ y := hvb.le.trans hb.le
          gcongr
          · exact ha.ge
          · exact hb.ge
      _ ≤ _ := hcut.ge

/-- One more bit of an exponent. -/
theorem Near.step {k : Nat} (ha : Near 0 x a) (h : Near (3 * k - 1) (x ^ k) w) (hk : 0 < k)
    (bit : Bool) : Near (3 * (2 * k + bit.toNat) - 1) (x ^ (2 * k + bit.toNat))
      (if bit then (w.mul w).mul a else w.mul w) := by
  have hsquare := h.mul h
  cases bit with
  | false =>
    rw [Bool.toNat_false, Nat.add_zero, Nat.two_mul, pow_add, if_neg Bool.false_ne_true]
    exact hsquare.mono (by omega)
  | true =>
    rw [Bool.toNat_true, Nat.two_mul, pow_succ, pow_add, if_pos rfl]
    exact (hsquare.mul ha).mono (by omega)

theorem pow_append (a : Wide) (bits : List Bool) (bit : Bool) :
    a.pow (bits ++ [bit]) =
      if bit then ((a.pow bits).mul (a.pow bits)).mul a else (a.pow bits).mul (a.pow bits) := by
  rw [pow, List.foldl_append]
  rfl

/-- **A power is close below its value.** The induction is on the bits of the exponent. -/
theorem near_pow (ha : Near 0 x a) (n : Nat) (hn : 0 < n) :
    Near (3 * n - 1) (x ^ n) (a.pow (bitsOf n)) := by
  induction n using Nat.strong_induction_on with
  | _ n ih =>
    rcases Nat.lt_or_ge n 2 with hlt | hge
    · have hone : n = 1 := by omega
      subst hone
      -- the only bit is a one, so that one is squared before it is multiplied
      have hstart : Near 0 1 (⟨1, 0⟩ : Wide) := by
        have := near_self (w := ⟨1, 0⟩) Nat.one_pos (Nat.one_lt_two_pow (by decide))
        rwa [value, zpow_zero, mul_one, Nat.cast_one] at this
      rw [pow_one, ← one_mul x, ← one_mul (1 : ℚ)]
      exact (hstart.mul hstart).mul ha
    · have hhalf : 2 * (n / 2) + (n % 2 == 1).toNat = n := by
        rcases Nat.mod_two_eq_zero_or_one n with hn | hn <;> rw [hn] <;> simp <;> omega
      have hstep := Near.step ha (ih (n / 2) (by omega) (by omega)) (by omega) (n % 2 == 1)
      rwa [hhalf, ← pow_append, ← bitsOf_of_two_le hge] at hstep

/-- Of two numbers with exponents far apart, that with the greater one is the greater number. -/
theorem value_lt_value {d : Nat} (ha : 0 < a.mantissa) (hb : b.mantissa < 2 ^ d)
    (h : b.exponent + d ≤ a.exponent) : b.value < a.value := by
  have ha' : (1 : ℚ) ≤ a.mantissa := Nat.one_le_cast.mpr ha
  have hb' : (b.mantissa : ℚ) < 2 ^ d := by exact_mod_cast hb
  calc b.value < 2 ^ d * 2 ^ b.exponent := mul_lt_mul_of_pos_right hb' (by positivity)
    _ = 2 ^ (b.exponent + d) := by rw [zpow_add₀ two_ne_zero, zpow_natCast, mul_comm]
    _ ≤ 1 * 2 ^ a.exponent := by
      rw [one_mul]
      exact zpow_le_zpow_right₀ one_le_two h
    _ ≤ a.value := mul_le_mul_of_nonneg_right ha' (by positivity)

/-- Numbers are compared as their values are. -/
theorem le_iff {d : Nat} (hd : d ≤ 4096) (ha : 0 < a.mantissa)
    (ha' : a.mantissa < 2 ^ d) (hb : 0 < b.mantissa) (hb' : b.mantissa < 2 ^ d) :
    a.le b = true ↔ a.value ≤ b.value := by
  have hvalue {c : Wide} {k : Int} (hk : k ≤ c.exponent) :
      c.value = (c.mantissa * 2 ^ (c.exponent - k).toNat : Nat) * 2 ^ k := by
    have hexponent : c.exponent = (c.exponent - k).toNat + k := by omega
    rw [value]
    conv_lhs => rw [hexponent, zpow_add₀ two_ne_zero, zpow_natCast]
    push_cast
    ring
  rw [le]
  split
  · exact iff_of_false Bool.false_ne_true (value_lt_value ha hb' (by omega)).not_ge
  · split
    · exact iff_of_true rfl (value_lt_value hb ha' (by omega)).le
    · rw [decide_eq_true_eq, hvalue (min_le_left a.exponent b.exponent),
        hvalue (min_le_right a.exponent b.exponent), mul_le_mul_iff_left₀ (by positivity),
        Nat.cast_le]
      rfl

end Wide

/-! ## Powers that have a value -/

/-- The value of a finite double. -/
def Exact.value (v : Exact) : ℚ :=
  (if v.negative then -1 else 1) * (Wide.mk v.mantissa v.exponent).value

/-- The value of a double, or zero if it is not finite. -/
def value (x : Float) : ℚ := ((decode? x).map Exact.value).getD 0

theorem value_ones (k : Nat) :
    (Wide.mk (Nat.pow 2 54 - 1) k).value = ((2 ^ 54 - 1) * 2 ^ k : Nat) := by
  rw [Wide.value, zpow_natCast, Nat.cast_mul, Nat.cast_pow, Nat.cast_two]
  rfl

theorem value_limit : Wide.limit.value = limit := by
  rw [limit]
  exact value_ones 970

/-- What powers keep of a factor, at least. -/
def nearlyOne : ℚ := Wide.kept ^ 3

theorem nearlyOne_nonneg : 0 ≤ nearlyOne := pow_nonneg Wide.kept_pos.le 3

theorem nearlyOne_le_one : nearlyOne ≤ 1 := pow_le_one₀ Wide.kept_pos.le Wide.kept_le_one

/-- What is lost in a power grows with the number of its factors. -/
theorem le_nearlyOne_pow (n : Nat) : 1 - 3 * n / 2 ^ Wide.width ≤ nearlyOne ^ n := by
  have hsmall : (1 : ℚ) / 2 ^ Wide.width ≤ 1 :=
    (div_le_one (by positivity)).mpr (one_le_pow₀ one_le_two)
  have hbernoulli := one_add_mul_le_pow (a := -(1 / 2 ^ Wide.width : ℚ)) (by linarith) (3 * n)
  rw [nearlyOne, ← pow_mul, Wide.kept, sub_eq_add_neg 1 (1 / 2 ^ Wide.width : ℚ)]
  refine le_trans (le_of_eq ?_) hbernoulli
  push_cast
  ring

theorem one_lt_limit : (1 : ℚ) < limit := Nat.one_lt_cast.mpr (lt_limit (by decide))

variable {v : Exact} {n : Nat}

/-- **Powers overflow as their values do**, but for a hair. -/
theorem overflows_bounds (hpos : 0 < v.mantissa) (hlt : v.mantissa < 2 ^ 53)
    (hsign : v.negative = false) (hn : 0 < n) :
    (v.value ^ n < limit → overflows v n = false) ∧
      (limit ≤ (nearlyOne * v.value) ^ n → overflows v n = true) := by
  have hvalue : v.value = (Wide.mk v.mantissa v.exponent).value := by
    rw [Exact.value, hsign, if_neg Bool.false_ne_true, one_mul]
  have hwide : 2 ^ 53 ≤ 2 ^ (Wide.width + 1) := Nat.pow_le_pow_right Nat.two_pos (by decide)
  have hnear := Wide.near_pow (Wide.near_self (w := ⟨v.mantissa, v.exponent⟩) hpos
    (hlt.trans_le hwide)) n hn
  rw [← hvalue] at hnear
  have hiff : overflows v n = true ↔ (limit : ℚ) ≤ ((Wide.mk v.mantissa v.exponent).pow
      (bitsOf n)).value := by
    rw [← value_limit, overflows, Int.natAbs_natCast, if_pos (Int.natCast_nonneg n)]
    refine Wide.le_iff (d := Wide.width + 1) (by decide) (by decide) ?_ hnear.pos hnear.lt
    exact Nat.lt_of_lt_of_le (by decide : Nat.pow 2 54 - 1 < 2 ^ 54)
      (Nat.pow_le_pow_right Nat.two_pos (by decide))
  constructor
  · intro h
    rw [Bool.eq_false_iff, Ne, hiff, not_le]
    exact hnear.le.trans_lt h
  · intro h
    have hkept : Wide.kept ^ (3 * n) ≤ Wide.kept ^ (3 * n - 1) :=
      pow_le_pow_of_le_one Wide.kept_pos.le Wide.kept_le_one (Nat.sub_le _ _)
    have hpow : 0 ≤ v.value ^ n := (Wide.value_pos hnear.pos).le.trans hnear.le
    rw [hiff]
    calc (limit : ℚ) ≤ (nearlyOne * v.value) ^ n := h
      _ = Wide.kept ^ (3 * n) * v.value ^ n := by rw [mul_pow, nearlyOne, ← pow_mul]
      _ ≤ Wide.kept ^ (3 * n - 1) * v.value ^ n := mul_le_mul_of_nonneg_right hkept hpow
      _ ≤ _ := hnear.ge

section OneLe

variable {x : Float} {m i : Nat} {e : Int} {hpos : 0 < m}

/-- Such a double is one if that is its absolute value. -/
theorem value_eq_one (h : x.toModel.unpack = .finite .positive m e hpos) (hm : 2 ^ 52 ≤ m)
    (hm' : m < 2 ^ 53) (he : -1074 ≤ e) (he' : e ≤ 971) (hone : (x.abs == 1.0) = true) :
    Exact.value ⟨false, m, e⟩ = 1 := by
  have habs : x.abs.toModel.unpack = .finite .positive m e hpos := by
    change (Float.Model.pack x.toModel.unpack.abs).unpack = _
    rw [h]
    exact unpack_pack hm hm' he he'
  have hbeq : x.abs.toModel.unpack.beq (.finite .positive (2 ^ 52) (-52) (by decide)) = true := hone
  rw [habs] at hbeq
  -- both are normal numbers, which are compared by their exponents first
  have hcompare : (some ((compare e (-52)).then (compare m (2 ^ 52))) == some .eq) = true := hbeq
  rw [beq_iff_eq, Option.some_inj, Ordering.then_eq_eq, compare_eq_iff_eq,
    compare_eq_iff_eq] at hcompare
  rw [hcompare.1, hcompare.2]
  norm_num [Exact.value, Wide.value]

/-- An exponent that is too large has no double. -/
theorem power_of_limit_le (x : Float) (h : limit ≤ i) : power x i = .error .exponentTooLarge := by
  rw [power, ofInt_of_limit_le h]

theorem power_of_rounded_eq_zero (x : Float) (h : i < limit) (hzero : rounded i = 0) :
    power x i = .ok 1.0 := by
  rw [power, ofInt_of_lt h]
  dsimp only
  rw [toInt_ofNat h, hzero]
  rfl

theorem isNaN_of_decode {v : Exact} (h : decode? x = some v) : x.isNaN = false := by
  rw [decode_eq] at h
  change x.toModel.unpack.isNaN = false
  cases hx : x.toModel.unpack with
  | notANumber =>
    rw [hx] at h
    cases h
  | _ => rfl

/-- The power of a positive number. -/
theorem power_eq (hdecode : decode? x = some ⟨false, m, e⟩) (hpos : 0 < m) (h : i < limit)
    (hzero : rounded i ≠ 0) : power x i =
      if x.abs == 1.0 then .ok 1.0
      else if overflows ⟨false, m, e⟩ (rounded i) then .error .tooLarge
      else .ok (Float.pow x.abs (Float.ofNat i)) := by
  rw [power, ofInt_of_lt h]
  dsimp only
  rw [toInt_ofNat h, if_neg (Int.natCast_ne_zero.mpr hzero), isNaN_of_decode hdecode,
    if_neg Bool.false_ne_true, hdecode]
  dsimp only
  rw [if_neg hpos.ne', positivePower]
  simp only [Bool.false_and, Bool.false_eq_true, if_false]
  exact congrFun Except.map_id _

/-- **Powers of numbers from one on have a value up to where they overflow.** The exponent is
rounded as every integer is that becomes a double, and near the limit the power may be as well. -/
theorem power_of_one_le (hone : 1.0 ≤ x) (hfinite : x.isFinite = true) (h : i < limit) :
    (value x ^ rounded i < limit → ∃ y, power x i = .ok y) ∧
      (limit ≤ (nearlyOne * value x) ^ rounded i → power x i = .error .tooLarge) := by
  obtain ⟨m, e, hpos, hunpack, hm, hm', he, he'⟩ := unpack_of_one_le hone hfinite
  have hdecode : decode? x = some ⟨false, m, e⟩ := by rw [decode_eq, hunpack, finite?, isNegative]
  have hvalue : value x = Exact.value ⟨false, m, e⟩ := by
    rw [value, hdecode]
    rfl
  rw [hvalue]
  rcases Nat.eq_zero_or_pos (rounded i) with hzero | hn
  · refine ⟨fun _ => ⟨1.0, power_of_rounded_eq_zero x h hzero⟩, fun hlarge => ?_⟩
    rw [hzero, pow_zero] at hlarge
    exact (hlarge.not_gt one_lt_limit).elim
  obtain ⟨hok, herror⟩ := overflows_bounds (v := ⟨false, m, e⟩) hpos hm' rfl hn
  rw [power_eq hdecode hpos h hn.ne']
  constructor
  · intro hsmall
    rw [hok hsmall]
    split <;> exact ⟨_, rfl⟩
  · intro hlarge
    have hother : (x.abs == 1.0) = false := by
      rw [Bool.eq_false_iff]
      intro habs
      rw [value_eq_one hunpack hm hm' (by omega) he' habs, mul_one] at hlarge
      exact hlarge.not_gt ((pow_le_one₀ nearlyOne_nonneg nearlyOne_le_one).trans_lt one_lt_limit)
    rw [hother, herror hlarge]
    rfl

end OneLe

/-! ## Powers of two -/

theorem value_two : value 2.0 = 2 := by
  have hdecode : decode? 2.0 = some ⟨false, 2 ^ 52, -51⟩ := by decide +kernel
  rw [value, hdecode]
  norm_num [Exact.value, Wide.value]

theorem ones_mul_eq (k : Nat) :
    (((2 ^ 54 - 1) * 2 ^ k : Nat) : ℚ) = (1 - 1 / 2 ^ 54) * 2 ^ (54 + k) := by
  rw [Nat.cast_mul, Nat.cast_pow, Nat.cast_two, pow_add, ← mul_assoc]
  norm_num

theorem limit_eq : (limit : ℚ) = (1 - 1 / 2 ^ 54) * 2 ^ 1024 := by
  unfold limit
  exact ones_mul_eq 970

theorem two_pow_lt_limit {k : Nat} (h : k ≤ 1023) : (2 : ℚ) ^ k < limit := by
  have hpow : (2 : ℚ) ^ k ≤ 2 ^ 1023 := pow_le_pow_right₀ one_le_two h
  have hpos : (0 : ℚ) < 2 ^ 1023 := by positivity
  rw [limit_eq, pow_succ _ 1023]
  generalize (2 : ℚ) ^ 1023 = x at *
  norm_num at *
  linarith

theorem limit_le_two_pow {k : Nat} (h : 1024 ≤ k) : limit ≤ (nearlyOne * 2) ^ k := by
  have hkept {n : Nat} (hn : n ≤ 1024) : 1 - 1 / 2 ^ 54 ≤ nearlyOne ^ n := by
    have hfactors : (n : ℚ) ≤ 1024 := by exact_mod_cast hn
    have hwidth : (2 : ℚ) ^ 66 ≤ 2 ^ Wide.width := pow_le_pow_right₀ one_le_two (by decide)
    have hloss : 3 * n / 2 ^ Wide.width ≤ (1 : ℚ) / 2 ^ 54 := by
      rw [div_le_div_iff₀ (by positivity) (by positivity)]
      linarith
    linarith [le_nearlyOne_pow n]
  have hone : 1 ≤ nearlyOne * 2 := by
    have hfirst := hkept (n := 1) (by decide)
    rw [pow_one] at hfirst
    linarith
  calc (limit : ℚ) = (1 - 1 / 2 ^ 54) * 2 ^ 1024 := limit_eq
    _ ≤ nearlyOne ^ 1024 * 2 ^ 1024 :=
      mul_le_mul_of_nonneg_right (hkept (Nat.le_refl _)) (by positivity)
    _ = (nearlyOne * 2) ^ 1024 := (mul_pow ..).symm
    _ ≤ (nearlyOne * 2) ^ k := pow_le_pow_right₀ hone h

/-- **Exactly the first 1024 powers of two have a value.** -/
theorem exists_power_two_iff (i : Nat) : (∃ y, power 2.0 i = .ok y) ↔ i < 1024 := by
  rcases Nat.lt_or_ge i limit with hlt | hge
  · obtain ⟨hok, herror⟩ := power_of_one_le (x := 2.0) (by decide +kernel) (by decide +kernel) hlt
    rw [value_two] at hok herror
    rcases Nat.lt_or_ge i 1024 with hsmall | hlarge
    · rw [rounded_of_lt (by omega)] at hok
      exact iff_of_true (hok (two_pow_lt_limit (by omega))) hsmall
    · have hrounded : 1024 ≤ rounded i := by
        rcases Nat.lt_or_ge i (2 ^ 53) with hi | hi
        · rwa [rounded_of_lt hi]
        · exact Nat.le_trans (by decide) (two_pow_le_rounded (Nat.le_trans (by decide) hi))
      rw [herror (limit_le_two_pow hrounded)]
      exact iff_of_false nofun (by omega)
  · rw [power_of_limit_le _ hge]
    have hlarge : 1023 < limit := lt_limit (Nat.le_refl _)
    exact iff_of_false nofun (by omega)

end TableDiscovery.Number
