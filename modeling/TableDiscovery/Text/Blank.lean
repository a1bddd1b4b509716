import TableDiscovery.Text.Ranges

/-!
# Blanks

The white space of Unicode together with the four information separators. The zero width space is
not blank.

* `Text.isBlank`: the class;
* `Text.trim`, `Text.strip`: a text without the blanks at its ends.
-/

namespace TableDiscovery.Text

/-- Code points that count as blank. -/
def blankRanges : Ranges :=
  [(0x9, 0xd), (0x1c, 0x20), (0x85, 0x85), (0xa0, 0xa0), (0x1680, 0x1680), (0x2000, 0x200a),
    (0x2028, 0x2029), (0x202f, 0x202f), (0x205f, 0x205f), (0x3000, 0x3000)]

/-- Whether a character is blank. -/
def isBlank (c : Char) : Bool := blankRanges.has c.toNat

/-- The members from the first to the last one that fails `p`. -/
def trimWhile (p : Char → Bool) (cs : List Char) : List Char :=
  ((cs.dropWhile p).reverse.dropWhile p).reverse

/-- The characters from the first to the last that is not blank. -/
def trim (cs : List Char) : List Char := trimWhile isBlank cs

/-- A text without the blanks at its ends. -/
def strip (s : String) : String := String.ofList (trim s.toList)

end TableDiscovery.Text
