/-!
# Ranges of characters

A property of characters that a standard lists is kept as the ranges of code points that have it.

* `Text.Ranges` — closed ranges of code points, in ascending order;
* `Text.Ranges.contains` — whether one of them holds a code point.
-/

namespace DeclSplit.Text

/-- Closed ranges of code points, each above the one before it. -/
abbrev Ranges := List (Nat × Nat)

/-- Whether one of the ranges holds a code point; the search ends at the first range that does not
lie wholly below it. -/
def Ranges.contains (n : Nat) : Ranges → Bool
  | [] => false
  | (first, last) :: rest =>
    if last < n then Ranges.contains n rest else decide (first ≤ n)

end DeclSplit.Text
