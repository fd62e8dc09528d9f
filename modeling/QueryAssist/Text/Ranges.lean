/-!
# Ranges of code points

Character classes beyond ASCII are kept as their ranges of code points, in increasing order.
-/

namespace QueryAssist.Text

/-- The search ends at the first range that begins above the code point, so the ranges have to be
in increasing order. -/
def inRanges : List (Nat × Nat) → Nat → Bool
  | [], _ => false
  | (first, last) :: rest, code =>
      if code < first then false else decide (code ≤ last) || inRanges rest code

end QueryAssist.Text
