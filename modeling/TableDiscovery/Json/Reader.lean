import TableDiscovery.Json.Value
import TableDiscovery.Text.Percent

/-!
# Reading JSON

A recursive descent over characters. Numbers without point and exponent are integers of any size;
doubles that are not finite are words. A string holds no control characters, and a number starts
with a zero only if that is its whole part. An object keeps the order of its fields; of several
fields with one name the last value counts. What a reader makes of a surrogate without its other
half is up to it, since no character stands for one.

* `Json.readString`, `Json.readNumber`, `Json.readValue`: a value at the front of a text;
* `Json.read?`: the value of a whole text.
-/

namespace TableDiscovery.Json

/-- Characters allowed between tokens. -/
def isSpace (c : Char) : Bool := c = ' ' || c = '\t' || c = '\n' || c = '\r'

/-- The UTF-16 unit of four hexadecimal digits. -/
def unit? (a b c d : Char) : Option Nat := do
  return 4096 * (← Text.hexValue? a) + 256 * (← Text.hexValue? b) + 16 * (← Text.hexValue? c) +
    (← Text.hexValue? d)

/-- The code points and UTF-16 units of a string up to its closing quote. -/
def readUnits : List Char → Option (List Nat × List Char)
  | [] => none
  | '"' :: rest => some ([], rest)
  | '\\' :: 'u' :: a :: b :: c :: d :: rest => do
    let n ← unit? a b c d
    let (ns, rest) ← readUnits rest
    return (n :: ns, rest)
  | '\\' :: e :: rest => do
    let n ← match e with
      | '"' => some 0x22
      | '\\' => some 0x5c
      | '/' => some 0x2f
      | 'b' => some 8
      | 'f' => some 12
      | 'n' => some 10
      | 'r' => some 13
      | 't' => some 9
      | _ => none
    let (ns, rest) ← readUnits rest
    return (n :: ns, rest)
  | c :: rest =>
    if c.toNat < 0x20 then none
    else do
      let (ns, rest) ← readUnits rest
      return (c.toNat :: ns, rest)

section

variable (lone : Nat → Char)

/-- The character of a unit that is no half of a pair. -/
def loneUnit (n : Nat) : Char := if 0xd800 ≤ n && n < 0xe000 then lone n else Char.ofNat n

/-- Joins surrogate pairs. -/
def joinUnits : List Nat → List Char
  | [] => []
  | [n] => [loneUnit lone n]
  | m :: n :: rest =>
    if 0xd800 ≤ m && m < 0xdc00 && 0xdc00 ≤ n && n < 0xe000 then
      Char.ofNat (0x10000 + 0x400 * (m - 0xd800) + (n - 0xdc00)) :: joinUnits rest
    else loneUnit lone m :: joinUnits (n :: rest)

/-- A string whose opening quote has been read. -/
def readString (cs : List Char) : Option (String × List Char) :=
  (readUnits cs).map fun p => (String.ofList (joinUnits lone p.1), p.2)

end

/-- The number that digits denote. -/
def natOf (ds : List Char) : Nat := ds.foldl (fun n c => 10 * n + (c.toNat - '0'.toNat)) 0

/-- The double nearest to `m * 10 ^ e`. -/
def decimal (m : Nat) (e : Int) : Float :=
  let size : Int := (Number.digits m).length + e
  if m = 0 || size < -400 then 0.0
  else if 400 < size then 1.0 / 0.0
  else Float.ofScientific m (e < 0) e.natAbs

/-- The decimal digits at the front, if there are any. -/
def digitRun? (cs : List Char) : Option (List Char × List Char) :=
  if (cs.takeWhile Char.isDigit).isEmpty then none
  else some (cs.takeWhile Char.isDigit, cs.dropWhile Char.isDigit)

/-- The whole part of a number: a zero, or digits that start with another one. -/
def readWhole? : List Char → Option (List Char × List Char)
  | '0' :: rest => some (['0'], rest)
  | cs => digitRun? cs

/-- The fraction of a number. -/
def readFraction : List Char → Option (List Char × List Char)
  | '.' :: rest => digitRun? rest
  | _ => none

/-- The exponent of a number. -/
def readExponent : List Char → Option (Int × List Char)
  | [] => none
  | c :: rest =>
    if c = 'e' || c = 'E' then
      match rest with
      | '-' :: rest => (digitRun? rest).map fun p => (-(natOf p.1 : Int), p.2)
      | '+' :: rest => (digitRun? rest).map fun p => ((natOf p.1 : Int), p.2)
      | rest => (digitRun? rest).map fun p => ((natOf p.1 : Int), p.2)
    else none

/-- A number without its sign: digits, then perhaps a fraction and an exponent. -/
def readUnsigned (negative : Bool) (cs : List Char) : Option (Json × List Char) := do
  let (whole, rest) ← readWhole? cs
  let (fraction, afterFraction) := (readFraction rest).getD ([], rest)
  match readExponent afterFraction with
  | none =>
    if fraction.isEmpty then
      let n : Int := natOf whole
      return (.int (if negative then -n else n), afterFraction)
    else
      let x := decimal (natOf (whole ++ fraction)) (-fraction.length)
      return (.float (if negative then -x else x), afterFraction)
  | some (exponent, rest) =>
    let x := decimal (natOf (whole ++ fraction)) (exponent - fraction.length)
    return (.float (if negative then -x else x), rest)

/-- A number with its sign. -/
def readNumber : List Char → Option (Json × List Char)
  | '-' :: rest => readUnsigned true rest
  | rest => readUnsigned false rest

/-- A word at the front of a text. -/
def readWord (word : String) (v : Json) (cs : List Char) : Option (Json × List Char) :=
  if word.toList.isPrefixOf cs then some (v, cs.drop word.length) else none

section

variable (lone : Nat → Char)

mutual

/-- A value at the front of a text; `fuel` bounds the nesting and the number of members. -/
def readValue : Nat → List Char → Option (Json × List Char)
  | 0, _ => none
  | fuel + 1, cs =>
    match cs.dropWhile isSpace with
    | '\x7b' :: rest =>
      match rest.dropWhile isSpace with
      | '\x7d' :: rest => some (.obj [], rest)
      | rest => (readFields fuel rest).map fun p => (.obj (Assoc.ofList p.1), p.2)
    | '[' :: rest =>
      match rest.dropWhile isSpace with
      | ']' :: rest => some (.arr [], rest)
      | rest => (readItems fuel rest).map fun p => (.arr p.1, p.2)
    | '"' :: rest => (readString lone rest).map fun p => (.str p.1, p.2)
    | 'n' :: rest => readWord "null" .null ('n' :: rest)
    | 't' :: rest => readWord "true" (.bool true) ('t' :: rest)
    | 'f' :: rest => readWord "false" (.bool false) ('f' :: rest)
    | 'N' :: rest => readWord "NaN" (.float (0.0 / 0.0)) ('N' :: rest)
    | 'I' :: rest => readWord "Infinity" (.float (1.0 / 0.0)) ('I' :: rest)
    | '-' :: 'I' :: rest => readWord "Infinity" (.float (-1.0 / 0.0)) ('I' :: rest)
    | rest => readNumber rest

/-- List members up to the closing bracket. -/
def readItems : Nat → List Char → Option (List Json × List Char)
  | 0, _ => none
  | fuel + 1, cs => do
    let (v, rest) ← readValue fuel cs
    match rest.dropWhile isSpace with
    | ',' :: rest =>
      let (vs, rest) ← readItems fuel rest
      return (v :: vs, rest)
    | ']' :: rest => return ([v], rest)
    | _ => none

/-- Object members up to the closing brace. -/
def readFields : Nat → List Char → Option (List (String × Json) × List Char)
  | 0, _ => none
  | fuel + 1, cs => do
    let (k, rest) ← match cs.dropWhile isSpace with
      | '"' :: rest => readString lone rest
      | _ => none
    let (v, rest) ← match rest.dropWhile isSpace with
      | ':' :: rest => readValue fuel rest
      | _ => none
    match rest.dropWhile isSpace with
    | ',' :: rest =>
      let (vs, rest) ← readFields fuel rest
      return ((k, v) :: vs, rest)
    | '\x7d' :: rest => return ([(k, v)], rest)
    | _ => none

end

/-- The value of a text that holds nothing else. -/
def read? (s : String) : Option Json :=
  let cs := s.toList
  match readValue lone (2 * cs.length + 2) cs with
  | some (v, rest) => if rest.all isSpace then some v else none
  | none => none

end

end TableDiscovery.Json
