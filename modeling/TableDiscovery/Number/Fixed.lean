import TableDiscovery.Number.Exact

/-!
# Fixed places and significant digits

* `Number.fixed`: a double with a number of decimal places;
* `Number.significant`: the digits and the decimal exponent of a double rounded to some digits;
* `Number.scientific`, `Number.general`: exponent notation, and the shorter of the two notations.

Roundings are to the nearest value, an exact tie to the even neighbour. A negative zero keeps its
sign; infinities and NaN are words.
-/

namespace TableDiscovery.Number

/-- The word for a double that is not finite. -/
def word (x : Float) : String :=
  if x.isNaN then "nan" else if x < 0 then "-inf" else "inf"

/-- The sign of a printed number. -/
def signText (negative : Bool) : String := if negative then "-" else ""

/-- Digits with a point before the last `places`; `keepPoint` shows it also before none. -/
def withPoint (places : Nat) (keepPoint : Bool) (ds : List Char) : String :=
  let whole := String.ofList (ds.take (ds.length - places))
  let rest := String.ofList (ds.drop (ds.length - places))
  if places = 0 && !keepPoint then whole else whole ++ "." ++ rest

/-- A number of decimal places and of significant digits with which every double is exact. Further
digits are zeros. -/
def exactCount : Nat := 1100

/-- Zeros that bring digits to a number of them. -/
def filled (count : Nat) (ds : List Char) : List Char :=
  ds ++ List.replicate (count - ds.length) '0'

/-- A double with `places` decimal places. -/
def fixed (places : Nat) (keepPoint : Bool) (x : Float) : String :=
  match decode? x with
  | none => word x
  | some v =>
    let shown := min places exactCount
    let q := v.scaled shown
    let ds := paddedDigits (shown + 1) (roundDiv q.1 q.2)
    signText v.negative ++ withPoint places keepPoint (filled (ds.length + (places - shown)) ds)

/-- The exponent of the leading decimal digit of a positive quotient. -/
def leadingExponent (num den : Nat) : Int :=
  let guess : Int := (digits num).length - (digits den).length
  let p := powQuotient 10 guess
  if p.1 * den ≤ num * p.2 then guess else guess - 1

/-- A positive value rounded to `count` digits, with the exponent of the leading one. Zeros with
which no digit is lost are left out. -/
def significant (count : Nat) (v : Exact) : List Char × Int :=
  if v.mantissa = 0 then (['0'], 0)
  else
    let shown := min count exactCount
    let one := v.scaled 0
    let k := leadingExponent one.1 one.2
    let q := v.scaled (shown - 1 - k)
    let r := digits (roundDiv q.1 q.2)
    if shown < r.length then (r.take shown, k + 1) else (r, k)

/-- An exponent with its sign and at least two digits. -/
def exponentText (k : Int) : String :=
  (if k < 0 then "e-" else "e+") ++ String.ofList (paddedDigits 2 k.natAbs)

/-- Exponent notation with `places` digits after the point. -/
def scientific (places : Nat) (keepPoint : Bool) (x : Float) : String :=
  match decode? x with
  | none => word x
  | some v =>
    let (ds, k) := significant (places + 1) v
    signText v.negative ++ withPoint places keepPoint (filled (places + 1) ds) ++ exponentText k

private def dropZeros (ds : List Char) : List Char :=
  (ds.reverse.dropWhile (· == '0')).reverse

/-- Positional notation for moderate exponents, else exponent notation, with `count` digits of
which trailing zeros are dropped unless `keepZeros`. -/
def general (count : Nat) (keepZeros : Bool) (x : Float) : String :=
  match decode? x with
  | none => word x
  | some v =>
    let count := max count 1
    let (ds, k) := significant count v
    let kept := if keepZeros then filled count ds else dropZeros ds
    if -4 ≤ k && k < count then
      let places := (kept.length : Int) - 1 - k
      let body := if places < 0 then kept ++ List.replicate (-places).toNat '0' else kept
      let padded := List.replicate ((-k).toNat) '0' ++ body
      signText v.negative ++ withPoint places.toNat keepZeros padded
    else
      let body := if kept.isEmpty then ['0'] else kept
      signText v.negative ++ withPoint (body.length - 1) keepZeros body ++ exponentText k

end TableDiscovery.Number
