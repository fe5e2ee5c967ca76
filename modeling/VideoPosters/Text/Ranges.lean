/-!
# Sets of code points given by ranges

A Unicode property is a list of inclusive ranges of code points.

## Main definitions

* `inRanges` — membership of a code point in such a list.
-/

namespace VideoPosters.Text

/-- Whether a code point lies in one of the inclusive ranges. -/
def inRanges : List (Nat × Nat) → Nat → Bool
  | [], _ => false
  | (lo, hi) :: rest, n => (lo ≤ n && n ≤ hi) || inRanges rest n

end VideoPosters.Text
