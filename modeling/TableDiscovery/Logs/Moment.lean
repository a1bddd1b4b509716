import TableDiscovery.Json.Value
import TableDiscovery.Kind
import TableDiscovery.Number.Exact
import TableDiscovery.Number.Power

/-!
# Moments

A moment is a number of seconds since the start of 1970 in universal time, with microseconds. It is
shown as a calendar date and a time of day, in one form for machines and in one for readers.

* `Moment`, `Moment.Fault`;
* `Moment.civil`: year, month and day of a day number;
* `Moment.nearest`, `Moment.floor`: the moment of a number of seconds, to the nearest microsecond
  and to the second before;
* `Moment.exactText`, `Moment.secondText`: the two forms.
-/

namespace TableDiscovery

/-- Whole seconds since 1970 and microseconds. -/
structure Moment where
  seconds : Int
  micros : Nat
deriving DecidableEq, Repr

namespace Moment

/-- Why a value is no moment that can be shown. -/
inductive Fault
  | notANumber
  | beyondClock
  | beyondCalendar
  | yearOutOfRange (year : Int)
  | yearTooLarge
  | notASecondCount (found : String)
deriving DecidableEq, Repr

/-- The kind of a fault. -/
def Fault.kind : Fault → Kind
  | notANumber | yearOutOfRange _ => .value
  | beyondClock | yearTooLarge => .overflow
  | beyondCalendar => .os
  | notASecondCount _ => .type

/-- What is said about a fault. -/
def Fault.message : Fault → String
  | notANumber => "Invalid value NaN (not a number)"
  | beyondClock => "timestamp out of range for platform time_t"
  | beyondCalendar => "[Errno 75] Value too large for defined data type"
  | yearOutOfRange year => "year " ++ toString year ++ " is out of range"
  | yearTooLarge => "signed integer is greater than maximum"
  | notASecondCount found => "'" ++ found ++ "' object cannot be interpreted as an integer"

/-- Year, month and day of a day counted from the start of 1970. Years are counted from March, so
that a leap day is the last of its year. -/
def civil (day : Int) : Int × Nat × Nat :=
  let shifted := day + 719468
  let era := shifted.fdiv 146097
  let dayOfEra := (shifted - era * 146097).toNat
  let yearOfEra := (dayOfEra - dayOfEra / 1460 + dayOfEra / 36524 - dayOfEra / 146096) / 365
  let dayOfYear := dayOfEra - (365 * yearOfEra + yearOfEra / 4 - yearOfEra / 100)
  let monthFromMarch := (5 * dayOfYear + 2) / 153
  let month := if monthFromMarch < 10 then monthFromMarch + 3 else monthFromMarch - 9
  (era * 400 + yearOfEra + (if month ≤ 2 then 1 else 0), month,
    dayOfYear - (153 * monthFromMarch + 2) / 5 + 1)

/-- The date of a moment. -/
def date (m : Moment) : Int × Nat × Nat := civil (m.seconds.fdiv 86400)

/-- Hour, minute and second. -/
def timeOfDay (m : Moment) : Nat × Nat × Nat :=
  let n := (m.seconds.fmod 86400).toNat
  (n / 3600, n / 60 % 60, n % 60)

/-- The moment with an integral double for its seconds, if the clock reaches it. The last second of
the clock is taken for the double next to it. -/
private def ofSeconds (seconds : Float) (micros : Nat) : Except Fault Moment :=
  if -9223372036854775808.0 ≤ seconds && seconds ≤ 9223372036854775808.0 then
    .ok ⟨Number.toInt seconds, micros⟩
  else .error .beyondClock

/-- The moment of a whole number of seconds, if the clock reaches it. -/
def ofInt (n : Int) : Except Fault Moment :=
  if -Int.pow 2 63 ≤ n && n < Int.pow 2 63 then .ok ⟨n, 0⟩ else .error .beyondClock

/-- The moment nearest to a double; a tie goes to the even microsecond. -/
def nearestTo (x : Float) : Except Fault Moment :=
  if x.isNaN then .error .notANumber
  else
    let whole := if x < 0.0 then x.ceil else x.floor
    let part := (x - whole) * 1000000.0
    let micros : Int :=
      match Number.decode? part with
      | none => 0
      | some v =>
        let q := v.scaled 0
        let n : Int := Number.roundDiv q.1 q.2
        if v.negative then -n else n
    if 1000000 ≤ micros then ofSeconds (whole + 1.0) (micros - 1000000).toNat
    else if micros < 0 then ofSeconds (whole - 1.0) (micros + 1000000).toNat
    else ofSeconds whole micros.toNat

/-- The last whole second that is not after a double. -/
def floorOf (x : Float) : Except Fault Moment :=
  if x.isNaN then .error .notANumber else ofSeconds x.floor 0

/-- The moment of a value that counts seconds; `ofFloat` takes a double to one. -/
def ofJson (ofFloat : Float → Except Fault Moment) : Json → Except Fault Moment
  | .float x => ofFloat x
  | .int n => ofInt n
  | .bool b => ofInt (if b then 1 else 0)
  | v => .error (.notASecondCount v.typeName)

/-- The moment of a value to the nearest microsecond. -/
def nearest (v : Json) : Except Fault Moment := ofJson nearestTo v

/-- The moment of a value to the second before. -/
def floor (v : Json) : Except Fault Moment := ofJson floorOf v

/-- The greatest year that the calendar counts from 1900. -/
def lastYear : Int := Int.pow 2 31 - 1 + 1900

/-- The date of a moment that the calendar reaches. -/
def date? (m : Moment) : Except Fault (Int × Nat × Nat) :=
  let d := m.date
  if -Int.pow 2 31 + 1900 ≤ d.1 && d.1 ≤ lastYear then .ok d else .error .beyondCalendar

private def padded (width n : Nat) : String := String.ofList (Number.paddedDigits width n)

/-- Hours, minutes and seconds with two digits each. -/
def clockText (m : Moment) : String :=
  let (hour, minute, second) := m.timeOfDay
  ":".intercalate [padded 2 hour, padded 2 minute, padded 2 second]

/-- Date, time with microseconds if there are any, and the offset. Years have four digits; another
year is named as a signed number of 32 bits. -/
def exactText (m : Moment) : Except Fault String := do
  let (year, month, day) ← m.date?
  if year < 1 || 9999 < year then throw (.yearOutOfRange (year.bmod (Nat.pow 2 32)))
  let fraction := if m.micros = 0 then "" else "." ++ padded 6 m.micros
  return "-".intercalate [padded 4 year.toNat, padded 2 month, padded 2 day] ++ "T" ++
    m.clockText ++ fraction ++ "+00:00"

/-- Date and time to the second. -/
def secondText (m : Moment) : Except Fault String := do
  let (year, month, day) ← m.date?
  if Int.pow 2 31 - 1 < year then throw .yearTooLarge
  return "-".intercalate [toString year, padded 2 month, padded 2 day] ++ " " ++ m.clockText

end Moment

end TableDiscovery
