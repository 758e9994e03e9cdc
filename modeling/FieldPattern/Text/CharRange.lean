/-!
# Character ranges

A property of characters is stored as the list of the inclusive code point intervals on which it
holds, in increasing order. Membership is one pass over the list, which keeps closed instances
decidable by evaluation.
-/

namespace FieldPattern.Text

/-- An inclusive interval of code points. -/
abbrev CharRange := Nat × Nat

/-- The character lies in one of the intervals. -/
def inRanges (ranges : List CharRange) (c : Char) : Bool :=
  ranges.any fun r => r.1 ≤ c.toNat && c.toNat ≤ r.2

end FieldPattern.Text
