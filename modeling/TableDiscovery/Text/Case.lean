import TableDiscovery.Text.Case.Lower
import TableDiscovery.Text.Case.Upper

/-!
# Case mappings

Full Unicode mappings of whole texts. Lower case depends on context in one place: a capital sigma
becomes the final form when a cased character precedes it and none follows, both up to characters
that case ignores.

* `Text.upper`, `Text.lower`;
* `Text.endsWord`: the context of a final sigma.
-/

namespace TableDiscovery.Text

/-- The upper case of a text. -/
def upper (s : String) : String :=
  String.ofList (s.toList.flatMap (mapCase upperRuns upperSpecial))

private def firstCased (cs : List Char) : Bool :=
  match cs.dropWhile (fun c => caseIgnorableRanges.has c.toNat) with
  | c :: _ => casedRanges.has c.toNat
  | [] => false

/-- Whether a capital sigma between the reversed text `before` and the text `after` ends a word. -/
def endsWord (before after : List Char) : Bool :=
  firstCased before && !firstCased after

private def lowerFrom (before : List Char) : List Char → List Char
  | [] => []
  | c :: rest =>
    (if c = 'Σ' then [if endsWord before rest then 'ς' else 'σ']
      else mapCase lowerRuns lowerSpecial c) ++ lowerFrom (c :: before) rest

/-- The lower case of a text. -/
def lower (s : String) : String :=
  String.ofList (lowerFrom [] s.toList)

end TableDiscovery.Text
