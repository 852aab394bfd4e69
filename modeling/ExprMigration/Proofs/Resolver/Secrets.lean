import ExprMigration.Proofs.Resolver.Layers

/-!
# Secrets

A key that begins with the stem of the secrets is taken by the family of the secrets and no other
(`Catalog.find?_registry_of_secretStem`).  So a resolver answers it with a call of `secrets.getValue`
whose argument is one quoted identifier, whatever stands in the key (`Resolver.resolve_of_secretStem`).
-/

namespace ExprMigration

/-! ## The family of the secrets -/

namespace Catalog

variable {scope : SecretScope} {key : Text}

theorem hasLongestStem_of_secretStem (h : secretStem <+: key) :
    Registry.HasLongestStem (families scope) key ⟨secretStem, .secret scope⟩ where
  listed := by simp [families]
  stem := h
  longest := by
    intro other hother hstem
    rw [eq_secret_of_stem hother hstem h]

theorem find?_registry_of_secretStem (scope : SecretScope) (rest : Text) :
    (registry scope).find? (secretStem ++ rest) =
      some (⟨secretStem, .secret scope⟩, (Text.beforeTail? [')'] rest).getD rest) := by
  rw [registry, Registry.find?_ofFamilies_eq_some_iff (nodup_stems scope)]
  refine ⟨hasLongestStem_of_secretStem (List.prefix_append _ _), ?_⟩
  have hcall : Family.isCall ⟨secretStem, .secret scope⟩ = true := by cases scope <;> decide +kernel
  rw [Family.suffix?_stem_append ⟨secretStem, .secret scope⟩ rest, if_pos hcall]

end Catalog

/-! ## What a resolver answers -/

namespace Resolver

/-- A key that begins with the stem of the secrets, and has no fixed entry, gives a call with one quoted
argument: an identifier behind the qualifier of the scope.  The scope decides the qualifier and nothing
else. -/
theorem resolve_of_secretStem (scope : SecretScope) (calls : List Call) (key : Text)
    (hstem : Catalog.secretStem <+: key)
    (hfixed : ((builtin scope).after calls).table.get? key = none) :
    ∃ identifier, Identifier.IsIdentifier identifier ∧ ∀ scope : SecretScope, ∃ value,
      ((builtin scope).after calls).resolve key = .derived Catalog.secretStem value ∧
      value = "<+secrets.getValue(\"".toList ++ scope.qualifier ++ identifier ++ "\")>".toList ∧
      value.count '"' = 2 := by
  obtain ⟨rest, rfl⟩ := hstem
  refine ⟨Identifier.ofName ((Text.beforeTail? [')'] rest).getD rest),
    Identifier.isIdentifier_ofName _, fun other => ⟨_, ?_, rfl, ?_⟩⟩
  · rw [table_after scope other] at hfixed
    rw [resolve, hfixed, registry_after, Catalog.find?_registry_of_secretStem]
    simp only [expand_secret, List.append_assoc]
  · have hidentifier := (Identifier.isIdentifier_ofName
      ((Text.beforeTail? [')'] rest).getD rest)).count_eq_zero (c := '"') (by decide) (by decide)
    have hlead : "<+secrets.getValue(\"".toList.count '"' = 1 := by decide +kernel
    have hqualifier : other.qualifier.count '"' = 0 := by cases other <;> decide
    have htail : "\")>".toList.count '"' = 1 := by decide
    rw [List.count_append, List.count_append, List.count_append, hidentifier, hlead, hqualifier, htail]

/-- A key that closes the call and the expression, and opens another one. -/
def breakout : Text := "secrets.getValue(\"a\")> <+secrets.getValue(\"1 K_b\")".toList

/-- The key gives one call all the same, with an entry for another key in the table. -/
theorem resolve_of_secretStem_breakout :
    Catalog.secretStem <+: breakout ∧ ∃ identifier, Identifier.IsIdentifier identifier ∧
      ∀ scope : SecretScope, ∃ value,
        ((builtin scope).after [.merge [("a".toList, "\"".toList)]]).resolve breakout =
          .derived Catalog.secretStem value ∧
        value = "<+secrets.getValue(\"".toList ++ scope.qualifier ++ identifier ++ "\")>".toList ∧
        value.count '"' = 2 := by
  have hstem : Catalog.secretStem <+: breakout := by decide +kernel
  refine ⟨hstem, resolve_of_secretStem .none _ breakout hstem ?_⟩
  rw [after_eq_merge, builtin_eq]
  decide +kernel

end Resolver
end ExprMigration
