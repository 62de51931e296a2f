/-!
Sets of characters as tables: ranges of code points, ends included, in increasing order.
-/

namespace RouteDoc.Text

/-- Whether a code point is in one of the ranges. They are in increasing order, so the search ends
at the first range that starts later. -/
def inRanges : List (Nat × Nat) → Nat → Bool
  | [], _ => false
  | (first, last) :: rest, code => first ≤ code && (code ≤ last || inRanges rest code)

end RouteDoc.Text
