import TableDiscovery.Text.Ranges

/-!
# Runs of a case mapping

Case partners mostly lie at one distance over a run of code points, or over every second one.

* `Text.CaseRun`, `Text.CaseRun.image?`;
* `Text.mapCase`: one code point through runs and special sequences.
-/

namespace TableDiscovery.Text

/-- First and last code point, the step between members, and the distance to the partner. -/
abbrev CaseRun := Nat × Nat × Nat × Int

/-- The partner of a code point of the run. -/
def CaseRun.image? (r : CaseRun) (n : Nat) : Option Nat :=
  if r.1 ≤ n && n ≤ r.2.1 && (n - r.1) % r.2.2.1 == 0 then some (n + r.2.2.2).toNat else none

/-- The full mapping of one character: a special sequence, else its partner, else itself. -/
def mapCase (runs : List CaseRun) (special : List (Nat × List Nat)) (c : Char) : List Char :=
  match special.lookup c.toNat with
  | some seq => seq.map Char.ofNat
  | none =>
    match runs.findSome? (CaseRun.image? · c.toNat) with
    | some n => [Char.ofNat n]
    | none => [c]

end TableDiscovery.Text
