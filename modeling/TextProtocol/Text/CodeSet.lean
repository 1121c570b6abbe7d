/-!
# Sets of code points

A property of characters is a finite union of intervals of code points. It is kept as the list of
the points at which membership changes, starting from "not a member", each told by its distance from
the one before, so that a table of a standard property is one list of small numbers.
-/

namespace TextProtocol

/-- A set of code points, as the list of the distances between the points where membership
changes. -/
structure CodeSet where
  gaps : List Nat

namespace CodeSet

/-- Whether an odd number of leading `gaps` add up to at most `n`. -/
def flips : List Nat → Nat → Bool
  | [], _ => false
  | g :: gs, n => if n < g then false else !flips gs (n - g)

def contains (s : CodeSet) (n : Nat) : Bool :=
  flips s.gaps n

def has (s : CodeSet) (c : Char) : Bool :=
  s.contains c.toNat

end CodeSet

end TextProtocol
