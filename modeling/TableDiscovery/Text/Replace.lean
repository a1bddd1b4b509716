/-!
# Searching and cutting texts

* `Text.replaceAll`: every occurrence of one text becomes another;
* `Text.occursIn`: whether one text is part of another;
* `Text.cut?`: the two sides of the first occurrence of a character;
* `Text.cutLast?`: the two sides of the last one;
* `Text.pieces`: the parts between the occurrences of a character.
-/

namespace TableDiscovery.Text

/-- Replaces the occurrences of `old` from the left, the first `skip` characters left out. -/
def replaceFrom (old new : List Char) : Nat → List Char → List Char
  | _, [] => []
  | skip + 1, _ :: rest => replaceFrom old new skip rest
  | 0, c :: rest =>
    if old.isPrefixOf (c :: rest) then new ++ replaceFrom old new (old.length - 1) rest
    else c :: replaceFrom old new 0 rest

/-- The text with each occurrence of `old` replaced by `new`; an empty `old` changes nothing. -/
def replaceAll (old new s : String) : String :=
  if old = "" then s else String.ofList (replaceFrom old.toList new.toList 0 s.toList)

/-- Whether one text occurs in another. -/
def occursIn (part : List Char) : List Char → Bool
  | [] => part.isEmpty
  | c :: rest => part.isPrefixOf (c :: rest) || occursIn part rest

/-- What stands before and after the first `c`. -/
def cut? (c : Char) : List Char → Option (List Char × List Char)
  | [] => none
  | d :: rest =>
    if d = c then some ([], rest) else (cut? c rest).map fun p => (d :: p.1, p.2)

/-- What stands before and after the last `c`. -/
def cutLast? (c : Char) (cs : List Char) : Option (List Char × List Char) :=
  (cut? c cs.reverse).map fun p => (p.2.reverse, p.1.reverse)

/-- The parts of a text between the occurrences of `c`. -/
def pieces (c : Char) : List Char → List (List Char)
  | [] => [[]]
  | d :: rest =>
    if d = c then [] :: pieces c rest
    else
      match pieces c rest with
      | p :: ps => (d :: p) :: ps
      | [] => [[d]]

/-- The parts of a text between the occurrences of `c`. -/
def split (c : Char) (s : String) : List String := (pieces c s.toList).map String.ofList

end TableDiscovery.Text
