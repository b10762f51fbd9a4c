/-!
# Character classes as ranges

A class of characters is kept as a list of ranges of code points in increasing order, so that a
search may stop at the first range that does not end before the code point.
-/

namespace WidgetBindings.Text

/-- Whether `n` lies in one of the ranges, first and last code point included. -/
def inRanges : List (Nat × Nat) → Nat → Bool
  | [], _ => false
  | (first, last) :: rest, n => if n ≤ last then first ≤ n else inRanges rest n

end WidgetBindings.Text
