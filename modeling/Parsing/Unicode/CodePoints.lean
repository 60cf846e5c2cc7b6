namespace Parsing.Unicode

-- Binary search between `low` and `high`, with everything below `low` at most `point` and
-- everything from `high` on above it.
def rankBetween (bounds : Array Nat) (point low high : Nat) : Nat :=
  if low < high then
    let middle := (low + high) / 2
    if bounds.getD middle 0 ≤ point then rankBetween bounds point (middle + 1) high
    else rankBetween bounds point low middle
  else low
termination_by high - low

-- How many of the increasing `bounds` lie at or below `point`.
def rank (bounds : Array Nat) (point : Nat) : Nat :=
  rankBetween bounds point 0 bounds.size

-- The first bound enters the set, the second one leaves it, and so on.
structure CodePoints where
  bounds : Array Nat

def CodePoints.contains (set : CodePoints) (c : Char) : Bool :=
  rank set.bounds c.toNat % 2 == 1

end Parsing.Unicode
