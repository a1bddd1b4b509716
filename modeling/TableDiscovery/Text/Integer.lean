import TableDiscovery.Text.Blank

/-!
# Integer literals

An integer is written with an optional sign and decimal digits of any script; single underscores
may stand between digits, and blanks may surround the whole.

* `Text.digitValue?`: the value of a decimal digit of any script;
* `Text.parseInt?`: the integer that a text denotes;
* `Text.writeInt?`: the text of an integer that is not too long.
-/

namespace TableDiscovery.Text

/-- The digits zero of the scripts of Unicode 14; the digits one to nine follow each of them. -/
def digitZeros : List Nat :=
  [
   0x30, 0x660, 0x6f0, 0x7c0, 0x966, 0x9e6, 0xa66, 0xae6, 0xb66, 0xbe6, 0xc66, 0xce6, 0xd66, 0xde6,
   0xe50, 0xed0, 0xf20, 0x1040, 0x1090, 0x17e0, 0x1810, 0x1946, 0x19d0, 0x1a80, 0x1a90, 0x1b50,
   0x1bb0, 0x1c40, 0x1c50, 0xa620, 0xa8d0, 0xa900, 0xa9d0, 0xa9f0, 0xaa50, 0xabf0, 0xff10, 0x104a0,
   0x10d30, 0x11066, 0x110f0, 0x11136, 0x111d0, 0x112f0, 0x11450, 0x114d0, 0x11650, 0x116c0,
   0x11730, 0x118e0, 0x11950, 0x11c50, 0x11d50, 0x11da0, 0x16a60, 0x16ac0, 0x16b50, 0x1d7ce,
   0x1d7d8, 0x1d7e2, 0x1d7ec, 0x1d7f6, 0x1e140, 0x1e2f0, 0x1e950, 0x1fbf0
  ]

/-- The value of a decimal digit. -/
def digitValue? (c : Char) : Option Nat :=
  (digitZeros.find? fun z => z ≤ c.toNat && c.toNat ≤ z + 9).map (c.toNat - ·)

/-- The digits of a literal without its sign. -/
def readDigits : List Char → Option (List Nat)
  | [] => none
  | [c] => (digitValue? c).map ([·])
  | c :: '_' :: rest => do return (← digitValue? c) :: (← readDigits rest)
  | c :: rest => do return (← digitValue? c) :: (← readDigits rest)

/-- The number that decimal digits denote, the most significant first. -/
def ofDigits (ds : List Nat) : Nat := ds.foldl (fun n d => 10 * n + d) 0

/-- The most digits that are read or written. -/
def maxDigits : Nat := 4300

/-- The number that a literal without sign denotes; a literal with too many digits has none. -/
def parseNat? (cs : List Char) : Option Nat := do
  let ds ← readDigits cs
  if ds.length ≤ maxDigits then some (ofDigits ds) else none

/-- Blanks that may surround a literal: all but the information separators. -/
def isPadding (c : Char) : Bool := isBlank c && !(0x1c ≤ c.toNat && c.toNat ≤ 0x1f)

/-- The integer that a text denotes. -/
def parseInt? (s : String) : Option Int :=
  match trimWhile isPadding s.toList with
  | '-' :: cs => (parseNat? cs).map fun n => -(n : Int)
  | '+' :: cs => (parseNat? cs).map Int.ofNat
  | cs => (parseNat? cs).map Int.ofNat

/-- An integer in decimal, unless it has too many digits. -/
def writeInt? (n : Int) : Option String :=
  if n.natAbs < Nat.pow 10 maxDigits then some (toString n) else none

end TableDiscovery.Text
