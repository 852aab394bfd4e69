import ExprMigration.Identifier

/-!
# Families of keys

A family gives a current expression to every key that begins with its stem.  A *field* family keeps
the rest of the key as a field path below a target; a *secret* family turns the rest of the key
into the identifier of a secret.
-/

namespace ExprMigration

/-- The scope in which a secret is looked up. -/
inductive SecretScope where
  | none
  | account
  | org
deriving Repr, DecidableEq, Inhabited

namespace SecretScope

/-- The qualifier in front of a secret's identifier. -/
def qualifier : SecretScope → Text
  | .none => []
  | .account => "Account.".toList
  | .org => "Org.".toList

/-- An identifier with the qualifier of its scope. -/
def qualify (scope : SecretScope) (identifier : Text) : Text := scope.qualifier ++ identifier

end SecretScope

/-- How the variable part of a key becomes a current expression. -/
inductive Form where
  | field (target : Text)
  | secret (scope : SecretScope)
deriving Repr, DecidableEq

namespace Form

/-- The current expression for a suffix. -/
def expand : Form → Text → Text
  | .field target, suffix => "<+".toList ++ target ++ '.' :: suffix ++ ['>']
  | .secret scope, suffix =>
    "<+secrets.getValue(\"".toList ++ scope.qualify (Identifier.ofName suffix) ++ "\")>".toList

end Form

/-- A family of keys with a common stem. -/
structure Family where
  stem : Text
  form : Form
deriving Repr, DecidableEq

namespace Family

/-- A call-style stem ends with an opening parenthesis. -/
def isCall (family : Family) : Bool := family.stem.getLast? == some '('

/-- The variable part of a key of the family; `none` if the key does not begin with the stem.

In a call it is what follows the stem, without one closing parenthesis at the end.  Otherwise it is
what follows the stem and a dot; a key that has no dot there loses its first occurrence of the stem
with a dot, or is kept whole. -/
def suffix? (family : Family) (key : Text) : Option Text :=
  (Text.afterLead? family.stem key).map fun rest =>
    if family.isCall then (Text.beforeTail? [')'] rest).getD rest
    else match Text.afterLead? ['.'] rest with
      | some field => field
      | none =>
        match Text.cut? (family.stem ++ ['.']) key with
        | some (before, after) => before ++ after
        | none => key

end Family
end ExprMigration
