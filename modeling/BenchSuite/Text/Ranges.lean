/-!
# Sets of characters as ranges

A class of characters is given by inclusive ranges of code points.  Membership is tested range by
range, so a fact about a class is a fact about a finite list.
-/

namespace BenchSuite.Text

/-- Inclusive ranges of code points. -/
abbrev Ranges := List (Nat × Nat)

def Ranges.contains (ranges : Ranges) (c : Char) : Bool :=
  ranges.any fun (low, high) => low ≤ c.toNat && c.toNat ≤ high

end BenchSuite.Text
