/-
  Sets of characters given as ascending, disjoint, closed ranges of code points.
-/

namespace DialogueFlow.Text

/-- Whether a code point lies in one of the ascending ranges. -/
def inRanges : List (Nat × Nat) → Nat → Bool
  | [], _ => false
  | (low, high) :: rest, point =>
    if point < low then false else if point ≤ high then true else inRanges rest point

end DialogueFlow.Text
