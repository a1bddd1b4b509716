/-!
# Exact values of doubles

A finite double is a sign and a natural number times a power of two. Decimal texts are computed
from that value with natural numbers only.

* `Number.Exact`, `Number.decode?`: sign, mantissa and exponent of a finite double;
* `Number.Exact.scaled`: the value times a power of ten as a quotient of natural numbers;
* `Number.roundDiv`: the quotient rounded to the nearest number, a tie to the even neighbour;
* `Number.ofInt?`: the double nearest to an integer, if there is a finite one.
-/

namespace TableDiscovery.Number

/-- The value of a finite double: `mantissa * 2 ^ exponent`, negated if `negative`. -/
structure Exact where
  negative : Bool
  mantissa : Nat
  exponent : Int
deriving DecidableEq, Repr

/-- The value of a double that is finite. -/
def decode? (x : Float) : Option Exact :=
  let bits : Nat := x.toBits.toNat
  let field : Nat := bits / Nat.pow 2 52 % 2048
  let fraction : Nat := bits % Nat.pow 2 52
  let negative := bits / Nat.pow 2 63 == 1
  if field = 2047 then none
  else if field = 0 then some ⟨negative, fraction, -1074⟩
  else some ⟨negative, Nat.pow 2 52 + fraction, (field : Int) - 1075⟩

/-- A power with an integer exponent as a quotient. -/
def powQuotient (base : Nat) (k : Int) : Nat × Nat :=
  if 0 ≤ k then (base.pow k.toNat, 1) else (1, base.pow (-k).toNat)

/-- The absolute value times `10 ^ k` as numerator and denominator. -/
def Exact.scaled (x : Exact) (k : Int) : Nat × Nat :=
  let two := powQuotient 2 x.exponent
  let ten := powQuotient 10 k
  (x.mantissa * two.1 * ten.1, two.2 * ten.2)

/-- The quotient to the nearest natural number; a tie goes to the even one. -/
def roundDiv (num den : Nat) : Nat :=
  let q := num / den
  let r := num % den
  if 2 * r > den || (2 * r == den && q % 2 == 1) then q + 1 else q

/-- The double nearest to an integer, unless it is too large for a finite one. -/
def ofInt? (n : Int) : Option Float :=
  let x := Float.ofInt n
  if x.isInf then none else some x

/-- The digits of a natural number in base ten. -/
def digits (n : Nat) : List Char := Nat.toDigits 10 n

/-- The digits padded with zeros on the left. -/
def paddedDigits (width n : Nat) : List Char :=
  let ds := digits n
  List.replicate (width - ds.length) '0' ++ ds

end TableDiscovery.Number
