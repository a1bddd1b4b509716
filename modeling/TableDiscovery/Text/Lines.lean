import TableDiscovery.Text.Ranges

/-!
# Lines

A text is cut into lines at its line breaks: the characters from line feed to carriage return,
three of the information separators, the next line, and the separators of lines and paragraphs. A
carriage return and a line feed after it are one break. A break at the end starts no further line.

* `Text.isBreak`, `Text.lines`.
-/

namespace TableDiscovery.Text

/-- Code points that break lines. -/
def breakRanges : Ranges := [(0xa, 0xd), (0x1c, 0x1e), (0x85, 0x85), (0x2028, 0x2029)]

/-- Whether a character breaks lines. -/
def isBreak (c : Char) : Bool := breakRanges.has c.toNat

/-- The lines between the breaks. -/
def cutLines : List Char → List (List Char)
  | [] => []
  | '\r' :: '\n' :: rest => [] :: cutLines rest
  | c :: rest =>
    if isBreak c then [] :: cutLines rest
    else
      match cutLines rest with
      | [] => [[c]]
      | line :: lines => (c :: line) :: lines

/-- The lines of a text. -/
def lines (s : String) : List String := (cutLines s.toList).map String.ofList

end TableDiscovery.Text
