import ExprMigration.Proofs.Substitution.Insertion

/-!
# Current expressions

A current expression stands between `<+` and `>`, and there is no other angle bracket, no dollar and no
brace in it.  So no legacy token occurs in it (`IsExpression.tokens_eq_nil`).
-/

namespace ExprMigration

open Token (IsPlain IsPlainChar)

/-- A character that can stand inside a current expression. -/
def IsInnerChar (c : Char) : Prop := IsPlainChar c ∧ c ≠ '<' ∧ c ≠ '>'

instance : DecidablePred IsInnerChar := fun _ => inferInstanceAs (Decidable (_ ∧ _))

/-- A current expression. -/
def IsExpression (v : Text) : Prop :=
  ∃ inner : Text, (∀ c ∈ inner, IsInnerChar c) ∧ v = "<+".toList ++ inner ++ ['>']

theorem all_isInnerChar {t : Text} : t.all (IsInnerChar ·) ↔ ∀ c ∈ t, IsInnerChar c := by
  simp

theorem isExpression_iff {v : Text} : IsExpression v ↔
    ∃ rest ∈ Text.afterLead? "<+".toList v, ∃ inner ∈ Text.beforeTail? ['>'] rest,
      inner.all (IsInnerChar ·) := by
  simp only [Option.mem_def, Text.afterLead?_eq_some_iff, Text.beforeTail?_eq_some_iff,
    all_isInnerChar]
  constructor
  · rintro ⟨inner, hinner, rfl⟩
    exact ⟨inner ++ ['>'], List.append_assoc .., inner, rfl, hinner⟩
  · rintro ⟨_, rfl, inner, rfl, hinner⟩
    exact ⟨inner, hinner, (List.append_assoc ..).symm⟩

instance : DecidablePred IsExpression := fun _ => decidable_of_iff _ isExpression_iff.symm

namespace IsExpression

variable {v : Text}

/-- An expression is plain and begins with `<`. -/
theorem isPlain (h : IsExpression v) : v.head? = some '<' ∧ IsPlain v := by
  obtain ⟨inner, hinner, rfl⟩ := h
  have hlead : "<+".toList = ['<', '+'] := by decide
  refine ⟨rfl, by simp, fun c hc => ?_⟩
  simp only [hlead, List.mem_append, List.mem_cons, List.not_mem_nil, or_false] at hc
  rcases hc with ((rfl | rfl) | hc) | rfl
  · decide
  · decide
  · exact (hinner c hc).1
  · decide

/-- No token occurs in an expression, because an expression holds no dollar. -/
theorem tokens_eq_nil (h : IsExpression v) : Token.tokens v = [] := by
  refine List.eq_nil_iff_forall_not_mem.2 fun u hu => ?_
  obtain ⟨htoken, hoccurs⟩ := Token.mem_tokens_iff.1 hu
  have hdollar : '$' ∈ u := htoken.isEnclosed.opening_prefix.subset (by simp [Token.opening])
  exact (h.isPlain.2.2 _ (hoccurs.subset hdollar)).1 rfl

end IsExpression
end ExprMigration
