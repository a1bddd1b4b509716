import TableDiscovery.Text.Utf8

/-!
# Percent escapes

`%` and two hexadecimal digits stand for a byte of the UTF-8 form of a text. An escape that is not
complete stays as it is.

* `Text.hexValue?`;
* `Text.unescapeBytes`, `Text.unescape`.
-/

namespace TableDiscovery.Text

/-- The value of a hexadecimal digit. -/
def hexValue? (c : Char) : Option Nat :=
  if '0' ≤ c && c ≤ '9' then some (c.toNat - '0'.toNat)
  else if 'a' ≤ c && c ≤ 'f' then some (c.toNat - 'a'.toNat + 10)
  else if 'A' ≤ c && c ≤ 'F' then some (c.toNat - 'A'.toNat + 10)
  else none

/-- The bytes of a text with escapes. -/
def unescapeBytes : List Char → List UInt8
  | '%' :: a :: b :: rest =>
    match hexValue? a, hexValue? b with
    | some x, some y => UInt8.ofNat (16 * x + y) :: unescapeBytes rest
    | _, _ => String.utf8EncodeChar '%' ++ unescapeBytes (a :: b :: rest)
  | c :: rest => String.utf8EncodeChar c ++ unescapeBytes rest
  | [] => []

/-- The text with its escapes replaced. -/
def unescape (s : String) : String := decodeBytes (unescapeBytes s.toList)

end TableDiscovery.Text
