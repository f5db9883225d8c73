/-!
# Sets of code points

A property of characters is given by the inclusive ranges of code points that
have it, in increasing order.
-/

namespace Retrace.Text

/-- Inclusive ranges of code points, in increasing order and apart from each other. -/
abbrev CodeRanges := List (Nat × Nat)

/-- Whether a code point lies in one of the ranges; stops at the first range beyond it. -/
def CodeRanges.contains : CodeRanges → Nat → Bool
  | [], _ => false
  | (low, high) :: rest, n =>
    if n < low then false else n ≤ high || contains rest n

/-- The ranges follow each other. -/
def CodeRanges.ascending : CodeRanges → Bool
  | [] => true
  | [(low, high)] => low ≤ high
  | (low, high) :: (low', high') :: rest =>
    low ≤ high && high < low' && ascending ((low', high') :: rest)

end Retrace.Text
