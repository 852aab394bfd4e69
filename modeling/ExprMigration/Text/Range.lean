/-!
# Ranges of code points

Properties of characters that a standard fixes by enumeration are held as ascending lists of
closed ranges of code points.
-/

namespace ExprMigration

/-- Ascending closed ranges of code points. -/
abbrev CodeRanges := List (Nat × Nat)

namespace CodeRanges

/-- Whether a character lies in one of the ranges. -/
def holds (ranges : CodeRanges) (c : Char) : Bool :=
  ranges.any fun (first, last) => first ≤ c.toNat && c.toNat ≤ last

end CodeRanges
end ExprMigration
