import LexicalFront.Search
set_option autoImplicit false
set_option relaxedAutoImplicit false

/-!
# Sets of code points

A property of characters is kept as the increasing list of the code points at which it changes:
it is false before the first, true from the first up to the second, and so on.

## Main definitions

* `LexicalFront.CodeSet` — the list of changes.
* `LexicalFront.CodeSet.contains` — membership, by binary search.
-/

namespace LexicalFront

/-- A set of code points, given by the increasing list of the places where membership changes. -/
structure CodeSet where
  /-- The places: the first starts a range, the second ends it, and so on. -/
  changes : Array Nat

namespace CodeSet

/-- The number of changes at or before the code point `n`. -/
def changesUpTo (s : CodeSet) (n : Nat) : Nat :=
  partitionPoint (fun i => s.changes.getD i 0 ≤ n) 0 s.changes.size

/-- A code point belongs to the set if membership changed an odd number of times up to it. -/
def contains (s : CodeSet) (n : Nat) : Bool :=
  s.changesUpTo n % 2 == 1

end CodeSet

end LexicalFront
