/-!
# Sets of characters

A set of characters given by the ranges of its code points, for properties that are
tables and not rules.
-/

namespace TalkTimer

/-- A set of characters as ranges of code points, both ends included. -/
structure CharSet where
  ranges : Array (Nat × Nat)

namespace CharSet

/-- Whether a character lies in one of the ranges. -/
def contains (s : CharSet) (c : Char) : Bool :=
  s.ranges.any fun r => r.1 ≤ c.toNat && c.toNat ≤ r.2

end CharSet
end TalkTimer
