/-!
Sets of characters given by ranges of code points.
-/
namespace Linkage.Text

/-- Whether a code point lies in one of some ranges, bounds included. -/
def inRanges (ranges : List (Nat × Nat)) (n : Nat) : Bool :=
  ranges.any fun (low, high) => low ≤ n && n ≤ high

end Linkage.Text
