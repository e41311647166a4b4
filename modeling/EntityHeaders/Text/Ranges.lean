/-! # Sets of code points

A set of code points given by its ranges, first and last included, in rising
order.  Looking a code point up stops at the first range that starts after it.
-/

namespace EntityHeaders.Text

/-- Ranges of code points in rising order, both ends included. -/
abbrev Ranges := List (Nat × Nat)

def covers : Ranges → Nat → Bool
  | [], _ => false
  | (first, last) :: rest, n =>
    if n < first then false else n ≤ last || covers rest n

end EntityHeaders.Text
