/-!
# Ranges of code points

Character classes are kept as lists of closed ranges of code points.

* `Text.Ranges`, `Text.Ranges.has`.
-/

namespace TableDiscovery.Text

/-- A set of code points as a list of closed ranges. -/
abbrev Ranges := List (Nat × Nat)

/-- Membership in one of the ranges. -/
def Ranges.has (rs : Ranges) (n : Nat) : Bool :=
  rs.any fun r => r.1 ≤ n && n ≤ r.2

end TableDiscovery.Text
