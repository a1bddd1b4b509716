import TableDiscovery.Json.Value
import TableDiscovery.Text.Points

/-!
# JSON texts

A value is written on one line in ASCII: `, ` between members, `: ` after a field name, and every
other character of a string as an escape of its UTF-16 units.

* `Json.escapeChar`, `Json.string`;
* `Json.escapePoint`, `Json.pointString`: the same for code points, where a surrogate is a unit;
* `Json.object`: an object whose values have been written;
* `Json.write`: the text of a value, however large;
* `Json.Writing.text`: the way of writing JSON, for what keeps a value from being written.
-/

namespace TableDiscovery.Json

/-- The escape of one UTF-16 unit. -/
def escapeUnit (n : Nat) : List Char := '\\' :: 'u' :: Text.hexDigits 4 n

/-- The units of a character. -/
def units16 (c : Char) : List Nat :=
  if c.toNat < 0x10000 then [c.toNat]
  else
    let n := c.toNat - 0x10000
    [0xd800 + n / 0x400, 0xdc00 + n % 0x400]

/-- A character inside a JSON string. -/
def escapeChar (c : Char) : List Char :=
  if c = '"' || c = '\\' then ['\\', c]
  else if c = '\n' then ['\\', 'n']
  else if c = '\r' then ['\\', 'r']
  else if c = '\t' then ['\\', 't']
  else if c.toNat = 8 then ['\\', 'b']
  else if c.toNat = 12 then ['\\', 'f']
  else if 0x20 ≤ c.toNat && c.toNat < 0x7f then [c]
  else (units16 c).flatMap escapeUnit

/-- A JSON string. -/
def string (s : String) : String :=
  String.ofList ('"' :: s.toList.flatMap escapeChar ++ ['"'])

/-- A code point inside a JSON string. -/
def escapePoint (p : Text.CodePoint) : List Char := p.char?.elim (escapeUnit p.val) escapeChar

/-- A JSON string of code points. -/
def pointString (ps : List Text.CodePoint) : String :=
  String.ofList ('"' :: ps.flatMap escapePoint ++ ['"'])

theorem pointString_points (s : String) : pointString (Text.points s) = string s := by
  simp [pointString, string, Text.points, List.flatMap_map, escapePoint]

/-- An object with the texts of its values. -/
def object (fields : List (String × String)) : String :=
  "\x7b" ++ ", ".intercalate (fields.map fun p => string p.1 ++ ": " ++ p.2) ++ "\x7d"

/-- A number that is a double; those that are not finite have names. -/
def floatText (x : Float) : String :=
  if x.isNaN then "NaN"
  else if x.isInf then (if x < 0 then "-Infinity" else "Infinity")
  else Number.shortest x

mutual

/-- The JSON text of a value. -/
def write : Json → String
  | null => "null"
  | bool b => if b then "true" else "false"
  | int n => toString n
  | float x => floatText x
  | str s => string s
  | arr items => "[" ++ ", ".intercalate (writeItems items) ++ "]"
  | obj fields => "\x7b" ++ ", ".intercalate (writeFields fields) ++ "\x7d"

/-- The texts of list members. -/
def writeItems : List Json → List String
  | [] => []
  | v :: rest => write v :: writeItems rest

/-- The texts of object members. -/
def writeFields : List (String × Json) → List String
  | [] => []
  | (k, v) :: rest => (string k ++ ": " ++ write v) :: writeFields rest

end

/-- Writing JSON, where only values with members take a level of the stack. -/
def Writing.text : Writing := ⟨"encoding a JSON object", false⟩

end TableDiscovery.Json
