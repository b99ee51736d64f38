/-!
# Sets of code points

A set of code points is written by its boundaries in increasing order: the first code point of the
first run, the one after its last, the first of the second run, and so on.  A code point belongs to
the set when an odd number of boundaries lie at or below it.
-/

namespace SeriesSql.Text

/-- Boundaries of the runs of a set of code points, in increasing order. -/
structure CodeSet where
  bounds : List Nat

namespace CodeSet

/-- Membership of the code point `n` in the runs that are left, where `inside` tells whether the
run before the first boundary belongs to the set. -/
def memFrom (n : Nat) (inside : Bool) : List Nat → Bool
  | [] => inside
  | bound :: rest => if n < bound then inside else memFrom n (!inside) rest

def contains (set : CodeSet) (c : Char) : Bool :=
  memFrom c.toNat false set.bounds

end CodeSet

end SeriesSql.Text
