import ExprMigration.Proofs.Substitution.Completion
import ExprMigration.Proofs.Token.Extraction

/-!
# Tokens that survive a substitution

A token without an expression is never damaged: whatever the others put into the text, it occurs
afterwards at least as often as before (`occurrences_le_modernise`).

With the built-in catalog more is known.  A token that a replacement completes shows the first
character of the inserted expression, which is a `<` and in no generic token, so that the generic tokens
of a text only ever become fewer: one pass leaves those without an expression, in their order
(`filter_tokens_modernise`).  What a completed secret takes with it is never a generic token.
-/

namespace ExprMigration

open Token (tokens distinct IsToken IsGeneric IsSecret Piece)

/-! ## One replacement -/

/-- Tokens without the first character of an expression go through a replacement by it unchanged and
in their order, but for the one that is replaced. -/
theorem Token.filter_distinct_replaceAll {token v : Text} {x : Char} {p : Text → Bool}
    (htoken : IsToken token) (hv : v.head? = some x) (hdollar : '$' ∉ v)
    (hp : ∀ u, x ∈ u → p u = false) (t : Text) :
    (distinct (Text.replaceAll token v t)).filter p =
      (distinct t).filter fun u => p u && u != token := by
  have hgathers := Token.gathers_replaceAll (v := v) htoken t
  have hpieces := hgathers.filter_tokens_eq (p := p) fun as w bs hrun hw => by
    refine hp w (Token.head_mem_of_run (fun u v' hu => ?_) hw hrun)
    obtain ⟨_, rfl⟩ : u = token ∧ v = v' := by simpa [Piece.only] using hu
    exact ⟨hdollar, hv⟩
  rw [distinct, ← Token.eraseDups_filter, hpieces, Piece.tokens_insert, List.filter_filter,
    Token.eraseDups_filter]
  refine List.filter_congr fun u _ => ?_
  by_cases hu : u = token
  · simp [hu, Piece.only_self]
  · simp [hu, Piece.only_of_ne hu]

namespace Resolver

variable {scope : SecretScope}

/-! ## All turns -/

/-- With the built-in catalog, a substitution leaves the generic tokens that have no turn or no
expression, in their order. -/
theorem filter_distinct_substitute {ts : List Text} (hts : ∀ u ∈ ts, IsToken u) (t : Text) :
    (distinct ((builtin scope).substitute ts t).1).filter (IsGeneric ·) =
      (distinct t).filter fun u =>
        IsGeneric u ∧ (u ∈ ts → (builtin scope).current? u = none) := by
  induction ts generalizing t with
  | nil => simp [substitute]
  | cons token rest ih =>
    obtain ⟨htoken, hrest⟩ := List.forall_mem_cons.1 hts
    rw [substitute_fst_cons, ih hrest]
    rcases hcurrent : (builtin scope).current? token with _ | value
    · rw [replaceOne_none hcurrent]
      refine List.filter_congr fun u _ => ?_
      by_cases hu : u = token
      · simp [hu, hcurrent]
      · simp [hu]
    · obtain ⟨hhead, hplain⟩ := isPlain_of_builtin htoken hcurrent
      rw [replaceOne_some hcurrent, Token.filter_distinct_replaceAll htoken hhead
        (fun hmem => (hplain.2 _ hmem).1 rfl) fun u hmem => ?_]
      · refine List.filter_congr fun u _ => ?_
        by_cases hu : u = token
        · simp [hu, hcurrent]
        · simp [hu]
      · simpa using fun hu => absurd hmem (notMem_of_isGeneric hu)

/-! ## One pass -/

theorem isGeneric_of_current?_eq_none {u : Text} (hu : IsToken u)
    (h : (builtin scope).current? u = none) : IsGeneric u := by
  refine hu.resolve_right fun hsecret => ?_
  have hsome : ((builtin scope).current? u).isSome := isResolved_of_isSecret hsecret
  simp [h] at hsome

theorem current?_eq_none_iff {resolver : Resolver} {u : Text} :
    resolver.current? u = none ↔ resolver.resolveToken u = .unresolved := by
  rw [current?]
  cases resolver.resolveToken u <;> simp [Resolution.value?]

/-- With the built-in catalog, the generic tokens after one pass over any text are those that the pass
reports as left, in the same order: the tokens of the text that have no expression. -/
theorem filter_tokens_modernise (scope : SecretScope) (t : Text) :
    (tokens ((builtin scope).modernise t).1).filter (IsGeneric ·) =
      ((builtin scope).modernise t).2 ∧
    ∀ u, IsGeneric u ∧ u ∈ tokens ((builtin scope).modernise t).1 ↔
      u ∈ tokens t ∧ (builtin scope).resolveToken u = .unresolved := by
  have hleft : (tokens ((builtin scope).modernise t).1).filter (IsGeneric ·) =
      ((builtin scope).modernise t).2 := by
    have hunresolved : ∀ u, IsToken u → !((builtin scope).resolveToken u).isResolved → IsGeneric u := by
      intro u hu hnot
      have hnone : (builtin scope).current? u = none := by simpa [isResolved_eq] using hnot
      exact isGeneric_of_current?_eq_none hu hnone
    rw [modernise, substitute_snd, Token.filter_tokens_eq_filter_distinct fun u _ hu => by simpa using hu,
      filter_distinct_substitute fun u => Token.isToken_of_mem_tokens,
      Token.filter_tokens_eq_filter_distinct hunresolved]
    refine List.filter_congr fun u hu => ?_
    have huToken := (Token.mem_distinct.1 hu).1
    have hmem : u ∈ tokens t := Token.mem_tokens_iff.2 (Token.mem_distinct.1 hu)
    rcases hcurrent : (builtin scope).current? u with _ | value
    · simp [isResolved_eq, hcurrent, isGeneric_of_current?_eq_none huToken hcurrent]
    · simp [isResolved_eq, hcurrent, hmem]
  refine ⟨hleft, fun u => ?_⟩
  have hmem : u ∈ (tokens ((builtin scope).modernise t).1).filter (IsGeneric ·) ↔
      u ∈ ((builtin scope).modernise t).2 := by rw [hleft]
  rw [modernise, substitute_snd, List.mem_filter, List.mem_filter, isResolved_eq] at hmem
  rw [modernise, ← current?_eq_none_iff, and_comm]
  simpa using hmem

/-- The token that is there after this pass is one of a secret. -/
example : (builtin .none).modernise "${secrets.getValue(${service.name})}".toList =
    ("${secrets.getValue(<+service.name>)}".toList, []) := by
  rw [builtin_eq]
  decide +kernel

/-! ## Tokens without an expression -/

section Unresolved

variable {resolver : Resolver} {ts : List Text} {u : Text}

/-- A token without an expression is lost in no turn, whatever the others put into the text. -/
theorem occurrences_le_substitute (hts : ∀ w ∈ ts, IsToken w) (hu : IsToken u)
    (h : resolver.current? u = none) (t : Text) :
    Text.occurrences u t ≤ Text.occurrences u (resolver.substitute ts t).1 := by
  induction ts generalizing t with
  | nil => exact Nat.le_refl _
  | cons token rest ih =>
    obtain ⟨htoken, hrest⟩ := List.forall_mem_cons.1 hts
    rw [substitute_fst_cons]
    refine Nat.le_trans ?_ (ih hrest (resolver.replaceOne token t))
    by_cases hne : u = token
    · subst hne
      rw [replaceOne_none h]
    · exact occurrences_le_replaceOne resolver htoken hu hne t

/-- One pass reports as left exactly the tokens of the text whose keys have no expression, in their
order.  Each of them occurs afterwards at least as often as before, whatever is put in the place of the
others. -/
theorem occurrences_le_modernise (resolver : Resolver) (t : Text) :
    (resolver.modernise t).2 =
      (tokens t).filter (fun u => resolver.resolve (Token.key u) = .unresolved) ∧
    ∀ u ∈ (resolver.modernise t).2,
      Text.occurrences u t ≤ Text.occurrences u (resolver.modernise t).1 := by
  have hleft : (resolver.modernise t).2 =
      (tokens t).filter (fun u => resolver.resolve (Token.key u) = .unresolved) := by
    rw [modernise, substitute_snd]
    refine List.filter_congr fun u _ => ?_
    have hnone : resolver.current? u = none ↔ resolver.resolve (Token.key u) = .unresolved :=
      current?_eq_none_iff
    rw [isResolved_eq, Bool.eq_iff_iff]
    simpa using hnone
  refine ⟨hleft, fun u hu => ?_⟩
  rw [hleft, List.mem_filter] at hu
  obtain ⟨hmem, hunresolved⟩ := hu
  refine occurrences_le_substitute (fun w hw => Token.isToken_of_mem_tokens hw)
    (Token.isToken_of_mem_tokens hmem) ?_ t
  exact current?_eq_none_iff.2 (of_decide_eq_true hunresolved)

/-- The catalog with a custom entry whose expression is a token without an expression, and the opening
of another one. -/
def disturbing : Resolver :=
  (builtin .none).merge [("a".toList, "${unknown.key}$\x7b".toList)]

/-- The token without an expression occurs once before and twice afterwards. -/
theorem occurrences_le_modernise_disturbing :
    "${unknown.key}".toList ∈ (disturbing.modernise "${a} ${unknown.key}".toList).2 ∧
    Text.occurrences "${unknown.key}".toList "${a} ${unknown.key}".toList ≤
      Text.occurrences "${unknown.key}".toList
        (disturbing.modernise "${a} ${unknown.key}".toList).1 ∧
    (disturbing.modernise "${a} ${unknown.key}".toList).1 =
      "${unknown.key}$\x7b ${unknown.key}".toList := by
  have hfind : (Catalog.registry .none).find? "unknown.key".toList = none :=
    Registry.find?_ofFamilies_eq_none_iff.2 (by decide +kernel)
  have hput : disturbing.table =
      EntryTable.put Catalog.entries "a".toList "${unknown.key}$\x7b".toList := by
    rw [disturbing, builtin_eq]
    rfl
  have hkeys : Token.key "${a}".toList = "a".toList ∧
      Token.key "${unknown.key}".toList = "unknown.key".toList := by
    decide
  have ha : disturbing.current? "${a}".toList = some "${unknown.key}$\x7b".toList := by
    rw [current?, resolveToken, hkeys.1, resolve, hput, EntryTable.get?_put, if_pos rfl]
    rfl
  have hunknown : disturbing.current? "${unknown.key}".toList = none := by
    have hentries : EntryTable.get? Catalog.entries "unknown.key".toList = none := by decide +kernel
    rw [current?_eq_none_iff, resolveToken, hkeys.2, resolve, hput, EntryTable.get?_put,
      if_neg (by decide), hentries]
    simp only [disturbing, builtin_eq, merge, hfind]
  have htokens : tokens "${a} ${unknown.key}".toList = ["${a}".toList, "${unknown.key}".toList] := by
    decide +kernel
  have hmem : "${unknown.key}".toList ∈
      (disturbing.modernise "${a} ${unknown.key}".toList).2 := by
    rw [modernise, substitute_snd, htokens, List.mem_filter, isResolved_eq, hunknown]
    exact ⟨List.mem_cons_of_mem _ (List.mem_singleton_self _), rfl⟩
  refine ⟨hmem, (occurrences_le_modernise disturbing _).2 _ hmem, ?_⟩
  rw [modernise, htokens, substitute_fst_cons, substitute_fst_cons, replaceOne_some ha,
    replaceOne_none hunknown]
  decide +kernel

end Unresolved
end Resolver
end ExprMigration
