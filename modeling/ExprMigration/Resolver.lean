import ExprMigration.Catalog
import ExprMigration.Token

/-!
# Resolving expressions

A resolver holds a table of fixed entries, which starts as the built-in catalog and grows by custom
entries, and the registry of families.  A key is looked up in the table first and in the registry
second.  `Resolver.substitute` puts the current expressions into a text.
-/

namespace ExprMigration

/-! ## Tables of fixed entries -/

/-- A table of entries, one for each key. -/
abbrev EntryTable := List (Text × Text)

namespace EntryTable

/-- Gives `key` the value `value`, in place of its present value if it has one. -/
def put (table : EntryTable) (key value : Text) : EntryTable :=
  match table with
  | [] => [(key, value)]
  | (k, v) :: rest => if k = key then (key, value) :: rest else (k, v) :: put rest key value

/-- Puts entries into a table one after the other, so that a later entry beats an earlier one. -/
def putAll (table : EntryTable) (entries : List (Text × Text)) : EntryTable :=
  entries.foldl (fun table (key, value) => put table key value) table

/-- The value of a key. -/
def get? (table : EntryTable) (key : Text) : Option Text :=
  match table with
  | [] => none
  | (k, v) :: rest => if k = key then some v else get? rest key

/-- After `put`, the key has the new value and every other key the value it had. -/
theorem get?_put (table : EntryTable) (key value other : Text) :
    get? (put table key value) other = if key = other then some value else get? table other := by
  induction table with
  | nil => simp [put, get?]
  | cons entry rest ih =>
    obtain ⟨k, v⟩ := entry
    by_cases hk : k = key
    · subst hk; by_cases ho : k = other <;> simp [put, get?, ho]
    · by_cases ho : k = other
      · subst ho; simp [put, get?, hk, Ne.symm hk]
      · simp [put, get?, hk, ho, ih]

end EntryTable

/-! ## Resolutions -/

/-- What a resolver says about a key. -/
inductive Resolution where
  /-- The table has an entry for the key. -/
  | fixed (value : Text)
  /-- The family with this stem takes the key. -/
  | derived (stem value : Text)
  | unresolved
deriving Repr, DecidableEq

namespace Resolution

/-- The current expression, if there is one. -/
def value? : Resolution → Option Text
  | .fixed value => some value
  | .derived _ value => some value
  | .unresolved => none

/-- Whether there is a current expression. -/
def isResolved (resolution : Resolution) : Bool := resolution.value?.isSome

end Resolution

/-! ## Resolvers -/

/-- A table of fixed entries and the families behind it. -/
structure Resolver where
  table : EntryTable
  registry : Registry
deriving Repr

namespace Resolver

/-- The resolver that knows the built-in catalog only. -/
def builtin (scope : SecretScope) : Resolver :=
  ⟨EntryTable.putAll [] Catalog.entries, Catalog.registry scope⟩

/-- Adds custom entries; a custom entry beats a built-in one and a later entry an earlier one. -/
def merge (resolver : Resolver) (entries : List (Text × Text)) : Resolver :=
  { resolver with table := resolver.table.putAll entries }

/-- What the resolver says about a key. -/
def resolve (resolver : Resolver) (key : Text) : Resolution :=
  match resolver.table.get? key with
  | some value => .fixed value
  | none =>
    match resolver.registry.find? key with
    | some (family, suffix) => .derived family.stem (family.form.expand suffix)
    | none => .unresolved

/-- What the resolver says about the key inside a token. -/
def resolveToken (resolver : Resolver) (token : Text) : Resolution :=
  resolver.resolve (Token.key token)

/-- Replaces the given tokens in a text, one after the other and each wherever it occurs in the
text as it then stands.  Returns the new text and the tokens that were left, in their order. -/
def substitute (resolver : Resolver) : List Text → Text → Text × List Text
  | [], t => (t, [])
  | token :: rest, t =>
    match (resolver.resolveToken token).value? with
    | some value => substitute resolver rest (Text.replaceAll token value t)
    | none =>
      let (result, left) := substitute resolver rest t
      (result, token :: left)

/-- Replaces every token of a text. -/
def modernise (resolver : Resolver) (t : Text) : Text × List Text :=
  resolver.substitute (Token.tokens t) t

end Resolver
end ExprMigration
