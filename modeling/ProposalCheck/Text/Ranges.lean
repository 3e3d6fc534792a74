/-!
# Sets of code points given by ranges

A character class of the Unicode standard is written down as the list of its maximal ranges, in
ascending order. `Ranges.contains` decides membership.
-/

namespace ProposalCheck.Text

/-- Ranges of code points, both ends included. -/
abbrev Ranges := List (Nat × Nat)

namespace Ranges

/-- Whether a code point lies in one of the ranges. -/
def contains (t : Ranges) (n : Nat) : Bool :=
  t.any fun r => r.1 ≤ n && n ≤ r.2

/-- Whether a character's code point lies in one of the ranges. -/
def has (t : Ranges) (c : Char) : Bool :=
  t.contains c.toNat

end Ranges

end ProposalCheck.Text
