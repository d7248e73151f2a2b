/-!
# Sets of code points

A character class of the Unicode standard is kept as an ascending list of closed ranges of code
points. Membership looks for a range that holds the character's number.
-/

namespace ReviewContext.Text

/-- A list of closed ranges of code points. -/
abbrev CodeRanges := List (Nat × Nat)

namespace CodeRanges

def contains (ranges : CodeRanges) (c : Char) : Bool :=
  ranges.any fun range => range.1 ≤ c.toNat && c.toNat ≤ range.2

end CodeRanges

end ReviewContext.Text
