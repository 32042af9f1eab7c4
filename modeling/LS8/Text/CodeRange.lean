-- Sets of characters given as ranges of code points, the way the tables of the
-- Unicode character database give them.

namespace LS8.Text

structure CodeRange where
  first : Nat
  last : Nat
  deriving DecidableEq

def CodeRange.contains (r : CodeRange) (c : Char) : Bool :=
  decide (r.first ≤ c.toNat) && decide (c.toNat ≤ r.last)

/-- Whether one of the ranges holds the character. -/
def inRanges (table : List CodeRange) (c : Char) : Bool := table.any (·.contains c)

end LS8.Text
