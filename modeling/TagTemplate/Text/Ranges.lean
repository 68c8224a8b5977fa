/-!
# Sets of code points

A property of characters is a list of closed intervals of code points in ascending order.
Membership stops at the first interval that begins past the code point, so common
characters are found early. The tables of this folder follow version 17.0 of the Unicode
character database.
-/

namespace TagTemplate.Text

/-- Closed intervals of code points, ascending and disjoint. -/
abbrev CodeRanges := List (Nat × Nat)

/-- Whether the code point `n` lies in one of the intervals. -/
def CodeRanges.contains : CodeRanges → Nat → Bool
  | [], _ => false
  | (first, last) :: rest, n =>
    if n < first then false else decide (n ≤ last) || CodeRanges.contains rest n

end TagTemplate.Text
