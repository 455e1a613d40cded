/-!
Sets of characters, given by runs of code points.
-/

namespace Intercept.Text

/-- Runs of code points, each by its first and its last one. -/
abbrev Ranges := List (Nat × Nat)

def Ranges.has (ranges : Ranges) (c : Char) : Bool :=
  ranges.any fun (first, last) => first ≤ c.toNat && c.toNat ≤ last

end Intercept.Text
