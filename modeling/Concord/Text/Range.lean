/-!
# Ranges of characters

The classes of characters that a standard lists are tables of ranges of code points.
-/

namespace Concord.Text

/-- The code points from the first to the last, both included. -/
structure Range where
  first : Nat
  last : Nat

/-- Whether the range holds the character. -/
def Range.contains (r : Range) (c : Char) : Bool := r.first ≤ c.toNat && c.toNat ≤ r.last

/-- Whether one of the ranges holds the character. -/
def inRanges (ranges : List Range) (c : Char) : Bool := ranges.any (·.contains c)

end Concord.Text
