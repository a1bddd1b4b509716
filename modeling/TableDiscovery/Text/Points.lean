/-!
# Texts by code point

A code point is a character or a surrogate. A list of them is a text in which surrogates may stand;
without any it is a `String`.

* `Text.CodePoint`, `Text.points`: code points, and those of a string;
* `Text.string?`: the string of a list without surrogates.
-/

namespace TableDiscovery.Text

/-- A code point. -/
abbrev CodePoint := Fin 0x110000

/-- The code point of a character. -/
def CodePoint.ofChar (c : Char) : CodePoint :=
  ⟨c.toNat, by
    have h : c.toNat.isValidChar := c.valid
    simp only [Nat.isValidChar] at h
    omega⟩

/-- The character of a code point that is no surrogate. -/
def CodePoint.char? (p : CodePoint) : Option Char :=
  if p.val.isValidChar then some (Char.ofNat p.val) else none

/-- The code points of a string. -/
def points (s : String) : List CodePoint := s.toList.map CodePoint.ofChar

/-- The string of a list of code points without surrogates. -/
def string? (ps : List CodePoint) : Option String :=
  (ps.mapM CodePoint.char?).map String.ofList

@[simp] theorem CodePoint.char?_ofChar (c : Char) : (ofChar c).char? = some c := by
  have h : c.toNat.isValidChar := c.valid
  simp [char?, ofChar, h]

end TableDiscovery.Text
