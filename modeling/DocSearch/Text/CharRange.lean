/-!
# Sets of characters

A set of code points is given by its ranges, both ends included. The tables that use it list the
ranges in ascending order, without overlap.
-/
namespace DocSearch

/-- Ranges of code points, as first and last. -/
abbrev CharRanges := List (Nat × Nat)

def CharRanges.contains (ranges : CharRanges) (c : Char) : Bool :=
  ranges.any fun (first, last) => first ≤ c.toNat && c.toNat ≤ last

end DocSearch
