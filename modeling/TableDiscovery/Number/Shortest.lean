import TableDiscovery.Number.Fixed

/-!
# The shortest decimal text of a double

Of the decimal numbers that round to a double, the one with the fewest digits is shown, and of
those the nearest. Exponents from -4 to 15 are written positionally.

* `Number.Interval`: the numbers that round to a double;
* `Number.shortestDigits`: digits and exponent of the leading digit;
* `Number.shortest`: the text.
-/

namespace TableDiscovery.Number

/-- The numbers that round to a double, as numerators over one denominator. -/
structure Interval where
  low : Nat
  value : Nat
  high : Nat
  den : Nat
  closed : Bool

/-- The interval of a positive value: halfway to its neighbours, ends included for an even one. -/
def Exact.interval (v : Exact) : Interval :=
  let two := powQuotient 2 (v.exponent - 2)
  let below := if v.mantissa = Nat.pow 2 52 && v.exponent ≠ -1074 then 1 else 2
  ⟨(4 * v.mantissa - below) * two.1, 4 * v.mantissa * two.1, (4 * v.mantissa + 2) * two.1, two.2,
    v.mantissa % 2 == 0⟩

/-- Whether `n / 10 ^ k` lies in the interval. -/
def Interval.holds (i : Interval) (n : Nat) (k : Int) : Bool :=
  let ten := powQuotient 10 k
  let x := n * ten.2 * i.den
  let low := i.low * ten.1
  let high := i.high * ten.1
  if i.closed then low ≤ x && x ≤ high else low < x && x < high

/-- The neighbour of the value on the grid of step `10 ^ -k` that lies in the interval, the nearer
one first. -/
def Interval.point? (i : Interval) (k : Int) : Option Nat :=
  let ten := powQuotient 10 k
  let num := i.value * ten.1
  let den := i.den * ten.2
  let down := num / den
  let near := roundDiv num den
  let far := if near = down then down + 1 else down
  if i.holds near k then some near else if i.holds far k then some far else none

private def shortestFrom (i : Interval) (lead : Int) : Nat → Nat → Option (Nat × Int)
  | 0, _ => none
  | more + 1, count =>
    let k := (count : Int) - 1 - lead
    match i.point? k with
    | some n => some (n, k)
    | none => shortestFrom i lead more (count + 1)

/-- The shortest digits of a positive value, without trailing zeros, and the exponent of the
leading one. -/
def shortestDigits (v : Exact) : List Char × Int :=
  let one := v.scaled 0
  let lead := leadingExponent one.1 one.2
  match shortestFrom v.interval lead 17 1 with
  | none => significant 17 v
  | some (n, k) =>
    let ds := digits n
    ((ds.reverse.dropWhile (· == '0')).reverse, (ds.length : Int) - 1 - k)

/-- The shortest text that reads back as the double. -/
def shortest (x : Float) : String :=
  match decode? x with
  | none => word x
  | some v =>
    signText v.negative ++
      if v.mantissa = 0 then "0.0"
      else
        let (ds, k) := shortestDigits v
        if -4 ≤ k && k < 16 then
          if k < 0 then
            "0." ++ String.ofList (List.replicate (-k - 1).toNat '0' ++ ds)
          else
            let whole := k.toNat + 1
            let padded := ds ++ List.replicate (whole + 1 - ds.length) '0'
            String.ofList (padded.take whole) ++ "." ++ String.ofList (padded.drop whole)
        else
          withPoint (ds.length - 1) false ds ++ exponentText k

end TableDiscovery.Number
