import ExprMigration.Proofs.Resolver.Layers

/-!
# What a resolver puts in the place of a token

With the built-in catalog, what is put in the place of a token of a text is a current expression, in
which no token occurs, and with any further entries only generic tokens are left
(`Resolver.isExpression_of_mem_tokens`).
-/

namespace ExprMigration
namespace Resolver

open Token (IsToken IsGeneric IsSecret tokens)

variable {scope : SecretScope} {calls : List Call} {u : Text}

/-- Whatever entries were merged, every secret token has an expression. -/
theorem isResolved_after_of_isSecret (hu : IsSecret u) :
    (((builtin scope).after calls).resolveToken u).isResolved := by
  rw [after_eq_merge, resolveToken]
  exact isResolved_resolve_merge _ (isResolved_of_isSecret hu)

/-- Whatever entries were merged, a token without an expression is generic, and not one of a secret. -/
theorem isGeneric_of_unresolved (hu : IsToken u)
    (h : ((builtin scope).after calls).resolveToken u = .unresolved) : IsGeneric u ∧ ¬ IsSecret u := by
  have hsecret : ¬ IsSecret u := fun hsecret => by
    have := @isResolved_after_of_isSecret scope calls u hsecret
    rw [h] at this
    exact absurd this (by decide)
  exact ⟨hu.resolve_right hsecret, hsecret⟩

/-- With the built-in catalog, what is put in the place of a token of a text is a current expression, so
that no token occurs in it.  Whatever entries are merged, every secret token has an expression, so that
only generic tokens of a text can be left. -/
theorem isExpression_of_mem_tokens (scope : SecretScope) :
    (∀ t, ∀ u ∈ tokens t, ∀ v ∈ ((builtin scope).resolveToken u).value?,
      IsExpression v ∧ tokens v = []) ∧
    ∀ calls : List Call,
      (∀ u, IsSecret u → (((builtin scope).after calls).resolveToken u).isResolved) ∧
      ∀ t, ∀ u ∈ tokens t, ((builtin scope).after calls).resolveToken u = .unresolved →
        IsGeneric u ∧ ¬ IsSecret u := by
  refine ⟨fun t u hu v hv => ?_, fun calls => ⟨fun u hu => isResolved_after_of_isSecret hu,
    fun t u hu h => isGeneric_of_unresolved (Token.isToken_of_mem_tokens hu) h⟩⟩
  have hexpression : IsExpression v := isExpression_of_builtin (Token.isToken_of_mem_tokens hu) hv
  exact ⟨hexpression, hexpression.tokens_eq_nil⟩

/-- A text with a token of a field, one of a secret and one without an expression. -/
def mixed : Text :=
  "$\x7bservice.variables.port\x7d $\x7bsecrets.getValue(a $b)\x7d $\x7bother\x7d".toList

/-- The field gives an expression, the secret has one after any merge, and what is left is generic. -/
theorem isExpression_of_mem_tokens_mixed :
    "$\x7bservice.variables.port\x7d".toList ∈ tokens mixed ∧
    ((builtin .none).resolveToken "$\x7bservice.variables.port\x7d".toList).value? =
      some "<+serviceVariables.port>".toList ∧
    IsExpression "<+serviceVariables.port>".toList ∧ tokens "<+serviceVariables.port>".toList = [] ∧
    IsSecret "$\x7bsecrets.getValue(a $b)\x7d".toList ∧
    (((builtin .none).after [.merge [("a".toList, [])]]).resolveToken
      "$\x7bsecrets.getValue(a $b)\x7d".toList).isResolved ∧
    "$\x7bother\x7d".toList ∈ tokens mixed ∧
    ((builtin .none).after [.merge [("a".toList, [])]]).resolveToken "$\x7bother\x7d".toList =
      .unresolved ∧
    IsGeneric "$\x7bother\x7d".toList := by
  have hfield : "$\x7bservice.variables.port\x7d".toList ∈ tokens mixed := by decide +kernel
  have hother : "$\x7bother\x7d".toList ∈ tokens mixed := by decide +kernel
  have hsecret : IsSecret "$\x7bsecrets.getValue(a $b)\x7d".toList := by decide +kernel
  have hfound : (Catalog.registry .none).find? "service.variables.port".toList =
      some (⟨"service.variables".toList, .field "serviceVariables".toList⟩, "port".toList) :=
    (Registry.find?_ofFamilies_eq_some_iff (Catalog.nodup_stems .none)).2
      ⟨⟨by decide +kernel, by decide, by decide +kernel⟩, by decide +kernel⟩
  have hvalue : ((builtin .none).resolveToken "$\x7bservice.variables.port\x7d".toList).value? =
      some "<+serviceVariables.port>".toList := by
    have hkey : Token.key "$\x7bservice.variables.port\x7d".toList =
        "service.variables.port".toList := by decide
    have hfixed : EntryTable.get? Catalog.entries "service.variables.port".toList = none := by
      decide +kernel
    rw [builtin_eq, resolveToken, hkey, resolve, hfixed, hfound]
    decide
  have hleft : ((builtin .none).after [.merge [("a".toList, [])]]).resolveToken
      "$\x7bother\x7d".toList = .unresolved := by
    have hkey : Token.key "$\x7bother\x7d".toList = "other".toList := by decide
    have hfixed : ((builtin .none).after [.merge [("a".toList, [])]]).table.get? "other".toList =
        none := by
      rw [after_eq_merge, builtin_eq]
      decide +kernel
    have hnone : (Catalog.registry .none).find? "other".toList = none :=
      Registry.find?_ofFamilies_eq_none_iff.2 (by decide +kernel)
    rw [resolveToken, hkey, resolve, hfixed, registry_after, hnone]
  obtain ⟨hexpression, hafter⟩ := isExpression_of_mem_tokens .none
  obtain ⟨hresolved, hgeneric⟩ := hafter [.merge [("a".toList, [])]]
  obtain ⟨h, hnil⟩ := hexpression mixed _ hfield _ hvalue
  exact ⟨hfield, hvalue, h, hnil, hsecret, hresolved _ hsecret, hother, hleft,
    (hgeneric mixed _ hother hleft).1⟩

end Resolver
end ExprMigration
