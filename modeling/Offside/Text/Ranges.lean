import Offside.Text.Basic

/-!
# Sets of code points given by ranges

The character classes of the Unicode standard are long, so they are written as lists of closed
ranges in increasing order.  Membership walks the list and stops at the first range that ends
past the code point.
-/

namespace Offside

/-- Closed ranges of code point numbers, in increasing order. -/
abbrev Ranges := List (Nat × Nat)

namespace Ranges

/-- The number lies in one of the ranges. -/
def contains : Ranges → Nat → Bool
  | [], _ => false
  | (lo, hi) :: rest, n => if n ≤ hi then lo ≤ n else contains rest n

end Ranges

end Offside
