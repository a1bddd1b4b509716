/-!
# Bytes as text

Decoding that never fails: each maximal part of an ill-formed sequence becomes one replacement
character.

* `Text.Lead`: what the first byte of a sequence asks of the next ones;
* `Text.decodeBytes`.
-/

namespace TableDiscovery.Text

/-- What a lead byte announces: the bits it carries, how many bytes follow, and the range that the
first of them must lie in. -/
structure Lead where
  bits : Nat
  more : Nat
  low : Nat
  high : Nat

/-- The sequence that a byte starts. -/
def Lead.of? (b : Nat) : Option Lead :=
  if b < 0x80 then some ⟨b, 0, 0x80, 0xbf⟩
  else if 0xc2 ≤ b && b ≤ 0xdf then some ⟨b - 0xc0, 1, 0x80, 0xbf⟩
  else if b = 0xe0 then some ⟨0, 2, 0xa0, 0xbf⟩
  else if b = 0xed then some ⟨0xd, 2, 0x80, 0x9f⟩
  else if 0xe1 ≤ b && b ≤ 0xef then some ⟨b - 0xe0, 2, 0x80, 0xbf⟩
  else if b = 0xf0 then some ⟨0, 3, 0x90, 0xbf⟩
  else if 0xf1 ≤ b && b ≤ 0xf3 then some ⟨b - 0xf0, 3, 0x80, 0xbf⟩
  else if b = 0xf4 then some ⟨4, 3, 0x80, 0x8f⟩
  else none

/-- The character that stands for a part that is not well-formed. -/
def replacement : Char := '\ufffd'

/-- Decodes bytes; a sequence begun earlier has `pending` left. -/
def decodeFrom (pending : Option Lead) : List UInt8 → List Char
  | [] => if pending.isSome then [replacement] else []
  | b :: rest =>
    let start : Option Lead × List Char :=
      match Lead.of? b.toNat with
      | none => (none, [replacement])
      | some l => if l.more = 0 then (none, [Char.ofNat l.bits]) else (some l, [])
    match pending with
    | none => start.2 ++ decodeFrom start.1 rest
    | some l =>
      if l.low ≤ b.toNat && b.toNat ≤ l.high then
        let bits := 64 * l.bits + (b.toNat - 0x80)
        if l.more ≤ 1 then Char.ofNat bits :: decodeFrom none rest
        else decodeFrom (some ⟨bits, l.more - 1, 0x80, 0xbf⟩) rest
      else replacement :: start.2 ++ decodeFrom start.1 rest

/-- The text of a byte sequence. -/
def decodeBytes (bs : List UInt8) : String := String.ofList (decodeFrom none bs)

/-- The byte sequence of a text. -/
def encodeBytes (s : String) : List UInt8 := s.toList.flatMap String.utf8EncodeChar

end TableDiscovery.Text
