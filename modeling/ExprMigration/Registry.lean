import ExprMigration.Family

/-!
# The registry of families

Families are tried from the longest stem to the shortest, and stems of one length in the order of
their characters.
-/

namespace ExprMigration

/-- Whether the first family is tried no later than the second. -/
def Family.before (a b : Family) : Bool :=
  let m := Text.utf8Size a.stem
  let n := Text.utf8Size b.stem
  n < m || (m == n && !decide (b.stem < a.stem))

/-- Families in the order in which they are tried. -/
structure Registry where
  families : List Family
deriving Repr

namespace Registry

/-- The registry of the given families, whatever their order. -/
def ofFamilies (families : List Family) : Registry := ⟨families.mergeSort Family.before⟩

/-- The first family that takes a key, with the variable part of the key. -/
def find? (registry : Registry) (key : Text) : Option (Family × Text) :=
  registry.families.findSome? fun family => (family.suffix? key).map fun suffix => (family, suffix)

end Registry
end ExprMigration
