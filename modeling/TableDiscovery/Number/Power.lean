import TableDiscovery.Number.Exact

/-!
# Powers of doubles

A double to an integer power. The exponent is first taken to the nearest double. A result that is
too large for a double is refused, and so is a negative power of zero.

* `Number.Wide`: positive numbers with a mantissa of some hundred bits;
* `Number.overflows`: whether a power rounds to infinity;
* `Number.power`.
-/

namespace TableDiscovery.Number

/-- The positive number `mantissa * 2 ^ exponent`. -/
structure Wide where
  mantissa : Nat
  exponent : Int
deriving DecidableEq, Repr

/-- Bits that products keep. -/
def Wide.width : Nat := 320

/-- Drops the bits beyond the width. -/
def Wide.trim (w : Wide) : Wide :=
  let extra := w.mantissa.log2 - Wide.width
  ⟨w.mantissa >>> extra, w.exponent + extra⟩

/-- The product. -/
def Wide.mul (a b : Wide) : Wide :=
  Wide.trim ⟨a.mantissa * b.mantissa, a.exponent + b.exponent⟩

/-- A natural power by squaring; `bits` are those of the exponent, the highest first. -/
def Wide.pow (a : Wide) (bits : List Bool) : Wide :=
  bits.foldl (fun acc b => let s := acc.mul acc; if b then s.mul a else s) ⟨1, 0⟩

/-- The bits of a number, the highest first. -/
def bitsOf (n : Nat) : List Bool := (Nat.toDigits 2 n).map (· == '1')

/-- The least number that rounds to infinity. -/
def Wide.limit : Wide := ⟨Nat.pow 2 54 - 1, 970⟩

/-- Whether `a ≤ b`. -/
def Wide.le (a b : Wide) : Bool :=
  let k := min a.exponent b.exponent
  if a.exponent - k > 4096 then false
  else if b.exponent - k > 4096 then true
  else
    a.mantissa * Nat.pow 2 (a.exponent - k).toNat ≤ b.mantissa * Nat.pow 2 (b.exponent - k).toNat

/-- Whether the `n`-th power of a positive value rounds to infinity. -/
def overflows (v : Exact) (n : Int) : Bool :=
  let w := Wide.pow ⟨v.mantissa, v.exponent⟩ (bitsOf n.natAbs)
  if 0 ≤ n then Wide.limit.le w else (w.mul Wide.limit).le ⟨1, 0⟩

/-- Why a power has no value. -/
inductive PowerFault
  | exponentTooLarge
  | zeroToNegative
  | tooLarge
deriving DecidableEq, Repr

/-- The integer that a double with an integral value is. -/
def toInt (x : Float) : Int :=
  match decode? x with
  | none => 0
  | some v =>
    let q := powQuotient 2 v.exponent
    let n : Int := (v.mantissa * q.1 / q.2 : Nat)
    if v.negative then -n else n

/-- The power of a positive double other than one. -/
def positivePower (base : Float) (v : Exact) (n : Int) (exponent : Float) :
    Except PowerFault Float :=
  if overflows v n then .error .tooLarge else .ok (Float.pow base exponent)

/-- A double to an integer power. -/
def power (base : Float) (n : Int) : Except PowerFault Float :=
  match ofInt? n with
  | none => .error .exponentTooLarge
  | some exponent =>
    let k := toInt exponent
    let odd := k % 2 == 1
    if k = 0 then .ok 1.0
    else if base.isNaN then .ok base
    else
      match decode? base with
      | none =>
        if 0 < k then .ok (if odd then base else base.abs)
        else .ok (if odd && base < 0.0 then -0.0 else 0.0)
      | some v =>
        if v.mantissa = 0 then
          if k < 0 then .error .zeroToNegative else .ok (if odd then base else 0.0)
        else
          let result :=
            if base.abs == 1.0 then .ok 1.0 else positivePower base.abs v k exponent
          result.map fun x => if v.negative && odd then -x else x

end TableDiscovery.Number
