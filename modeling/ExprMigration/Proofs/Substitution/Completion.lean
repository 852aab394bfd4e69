import ExprMigration.Proofs.Substitution.Order

/-!
# Complete substitutions

A replacement can complete a token: an expression that is put into a text may, with what stands
around it, spell one.  Such a token is replaced only if its turn is still to come
(`Resolver.KeepsUp`).  If all given tokens have expressions, this decides whether a token remains
(`tokens_substitute_eq_nil_iff`).  With the built-in catalog it decides whether a second substitution
changes the text again (`modernise_modernise_iff`).
-/

namespace ExprMigration
namespace Resolver

open Token (tokens IsToken IsSecret IsGeneric Piece)

variable (resolver : Resolver)

/-- At the turn of each token that has an expression, every token that is there afterwards and was
not before, or that was just replaced, still has its turn. -/
def KeepsUp : List Text → Text → Prop
  | [], _ => True
  | token :: rest, t =>
    ((resolver.current? token).isSome → ∀ u ∈ tokens (resolver.replaceOne token t),
      u = token ∨ u ∉ tokens t → u ∈ rest) ∧
    KeepsUp rest (resolver.replaceOne token t)

instance decidableKeepsUp : ∀ (ts : List Text) (t : Text), Decidable (resolver.KeepsUp ts t)
  | [], _ => inferInstanceAs (Decidable True)
  | token :: rest, t =>
    have := decidableKeepsUp rest (resolver.replaceOne token t)
    inferInstanceAs (Decidable (_ ∧ _))

variable {resolver} {ts : List Text} {t u : Text}

/-! ## Tokens that remain -/

theorem mem_tokens_replaceOne {token : Text} (htoken : IsToken token) (hu : u ∈ tokens t)
    (h : u ≠ token ∨ resolver.current? u = none) : u ∈ tokens (resolver.replaceOne token t) := by
  rcases hcurrent : resolver.current? token with _ | value
  · rwa [replaceOne_none hcurrent]
  · have hne : u ≠ token := by
      rcases h with h | h
      · exact h
      · rintro rfl
        simp [hcurrent] at h
    rw [replaceOne_some hcurrent]
    exact Token.mem_tokens_replaceAll htoken hne hu

/-- A token that has no turn, or no expression, remains. -/
theorem mem_tokens_substitute (hts : ∀ w ∈ ts, IsToken w) (hu : u ∈ tokens t)
    (h : u ∉ ts ∨ resolver.current? u = none) : u ∈ tokens (resolver.substitute ts t).1 := by
  induction ts generalizing t with
  | nil => exact hu
  | cons token rest ih =>
    obtain ⟨htoken, hts⟩ := List.forall_mem_cons.1 hts
    rw [substitute_fst_cons]
    refine ih hts ?_ ?_
    · refine mem_tokens_replaceOne htoken hu (h.imp_left ?_)
      rintro hnot rfl
      exact hnot List.mem_cons_self
    · exact h.imp_left fun hnot hmem => hnot (List.mem_cons_of_mem _ hmem)

/-- After a substitution that keeps up, the only tokens are those that had no turn or no
expression. -/
theorem KeepsUp.token_cases (h : resolver.KeepsUp ts t)
    (hu : u ∈ tokens (resolver.substitute ts t).1) :
    u ∈ ts ∧ resolver.current? u = none ∨ u ∈ tokens t ∧ u ∉ ts := by
  induction ts generalizing t with
  | nil => exact .inr ⟨hu, List.not_mem_nil⟩
  | cons token rest ih =>
    rw [substitute_fst_cons] at hu
    obtain ⟨hturn, hrest⟩ := h
    rcases ih hrest hu with ⟨hmem, hnone⟩ | ⟨hmem, hnotMem⟩
    · exact .inl ⟨List.mem_cons_of_mem _ hmem, hnone⟩
    rcases hcurrent : resolver.current? token with _ | value
    · rw [replaceOne_none hcurrent] at hmem
      by_cases hut : u = token
      · subst hut
        exact .inl ⟨List.mem_cons_self, hcurrent⟩
      · exact .inr ⟨hmem, by simp [hut, hnotMem]⟩
    · have hold : ¬ (u = token ∨ u ∉ tokens t) := fun hnew =>
        hnotMem (hturn (by simp [hcurrent]) u hmem hnew)
      rw [not_or, not_not] at hold
      exact .inr ⟨hold.2, by simp [hold.1, hnotMem]⟩

/-- When every token of a text has its turn and its expression, no token remains exactly if the
substitution keeps up. -/
theorem tokens_substitute_eq_nil_iff (hts : ∀ w ∈ ts, IsToken w) (hall : ∀ w ∈ tokens t, w ∈ ts)
    (hresolved : ∀ w ∈ ts, (resolver.current? w).isSome) :
    tokens (resolver.substitute ts t).1 = [] ↔ resolver.KeepsUp ts t := by
  constructor
  · intro hnil
    clear hall hresolved
    induction ts generalizing t with
    | nil => trivial
    | cons token rest ih =>
      obtain ⟨_, hts⟩ := List.forall_mem_cons.1 hts
      rw [substitute_fst_cons] at hnil
      refine ⟨fun _ u hu _ => ?_, ih hts hnil⟩
      -- a token without a turn would remain
      by_contra hnotMem
      have hmem : u ∈ tokens (resolver.substitute rest (resolver.replaceOne token t)).1 :=
        mem_tokens_substitute hts hu (.inl hnotMem)
      rw [hnil] at hmem
      exact List.not_mem_nil hmem
  · intro h
    rw [List.eq_nil_iff_forall_not_mem]
    intro u hu
    rcases h.token_cases hu with ⟨hmem, hnone⟩ | ⟨hmem, hnotMem⟩
    · have hsome := hresolved u hmem
      rw [hnone] at hsome
      simp at hsome
    · exact hnotMem (hall u hmem)

/-! ## Tokens that a replacement completes -/

/-- A token that is there after a replacement was there before, or shows the first character of the
expression. -/
theorem mem_tokens_of_replaceAll {token v : Text} {x : Char} (htoken : IsToken token)
    (hv : v.head? = some x) (hdollar : '$' ∉ v) (hu : u ∈ tokens (Text.replaceAll token v t)) :
    u ≠ token ∧ u ∈ tokens t ∨ x ∈ u := by
  have huToken := Token.isToken_of_mem_tokens hu
  rw [← Token.token_mem_pieces_iff_mem_tokens] at hu
  rcases (Token.gathers_replaceAll htoken t).token_cases hu with hu | ⟨as, bs, hrun⟩
  · obtain ⟨hmem, hnone⟩ := Piece.token_mem_insert.1 hu
    refine .inl ⟨?_, Token.token_mem_pieces_iff_mem_tokens.1 hmem⟩
    rintro rfl
    simp [Piece.only_self] at hnone
  · refine .inr (Token.head_mem_of_run (fun w v' hw => ?_) huToken hrun)
    obtain ⟨_, rfl⟩ : w = token ∧ v = v' := by simpa [Piece.only] using hw
    exact ⟨hdollar, hv⟩

theorem notMem_of_isGeneric {u : Text} (h : IsGeneric u) : '<' ∉ u := by
  obtain ⟨body, _, hbody, rfl⟩ := h
  simp only [List.mem_append, or_assoc]
  rintro (h | h | h)
  · exact absurd h (by decide)
  · exact absurd (hbody _ h) (by decide)
  · exact absurd h (by decide)

theorem isSecret_of_mem {u : Text} (hu : IsToken u) (h : '<' ∈ u) : IsSecret u :=
  hu.resolve_left fun hgeneric => notMem_of_isGeneric hgeneric h

variable {scope : SecretScope}

/-- With the built-in catalog, a token that a replacement completes is one of a secret, so it has an
expression. -/
theorem isSome_of_completed {token : Text} (htoken : IsToken token)
    (hsome : ((builtin scope).current? token).isSome)
    (hu : u ∈ tokens ((builtin scope).replaceOne token t))
    (hnew : u = token ∨ u ∉ tokens t) : ((builtin scope).current? u).isSome := by
  have huToken := Token.isToken_of_mem_tokens hu
  obtain ⟨value, hvalue⟩ := Option.isSome_iff_exists.1 hsome
  obtain ⟨hhead, hplain⟩ := isPlain_of_builtin htoken hvalue
  rw [replaceOne_some hvalue] at hu
  have hdollar : '$' ∉ value := fun hmem => (hplain.2 _ hmem).1 rfl
  rcases mem_tokens_of_replaceAll htoken hhead hdollar hu with ⟨hne, hold⟩ | hmem
  · rcases hnew with rfl | hnew
    · exact absurd rfl hne
    · exact absurd hold hnew
  · exact isResolved_of_isSecret (isSecret_of_mem huToken hmem)

/-- With the built-in catalog, a substitution after which no token has an expression has kept up. -/
theorem keepsUp_of_unresolved (hts : ∀ w ∈ ts, IsToken w)
    (h : ∀ w ∈ tokens ((builtin scope).substitute ts t).1, (builtin scope).current? w = none) :
    (builtin scope).KeepsUp ts t := by
  induction ts generalizing t with
  | nil => trivial
  | cons token rest ih =>
    obtain ⟨htoken, hts⟩ := List.forall_mem_cons.1 hts
    rw [substitute_fst_cons] at h
    refine ⟨fun hsome u hu hnew => ?_, ih hts h⟩
    -- a completed token without a turn would remain, and it has an expression
    by_contra hnotMem
    have hnone := h u (mem_tokens_substitute hts hu (.inl hnotMem))
    have hsome := isSome_of_completed htoken hsome hu hnew
    rw [hnone] at hsome
    simp at hsome

/-! ## Substituting again -/

theorem substitute_fst_of_unresolved (h : ∀ w ∈ ts, resolver.current? w = none) :
    (resolver.substitute ts t).1 = t := by
  induction ts with
  | nil => rfl
  | cons token rest ih =>
    obtain ⟨hnone, hrest⟩ := List.forall_mem_cons.1 h
    rw [substitute_fst_cons, replaceOne_none hnone]
    exact ih hrest

/-- With expressions that hold no opening brace, a text stays as it is exactly if none of its tokens
has an expression. -/
theorem modernise_fst_eq_iff (hvalue : ∀ w ∈ tokens t, ∀ v ∈ resolver.current? w, '\x7b' ∉ v) :
    (resolver.modernise t).1 = t ↔ ∀ w ∈ tokens t, resolver.current? w = none := by
  constructor
  · intro heq u hu
    by_contra hne
    have htoken : ∀ w ∈ tokens t, IsToken w := fun w hw => Token.isToken_of_mem_tokens hw
    have hbraces := braces_substitute htoken hvalue t
    have hle := (@resolvable_eq_replacements_iff resolver _ t htoken (Token.nodup_tokens t)).1
    -- the token `u` is replaced at least once
    have hone : 0 < resolver.resolvable (tokens t) t := by
      have hpos : 0 < resolver.resolvableOne u t := by
        rw [resolvableOne, if_pos (Option.isSome_iff_ne_none.2 hne),
          Token.occurrences_eq_count (htoken u hu), List.count_pos_iff]
        exact Token.token_mem_pieces_iff_mem_tokens.2 hu
      exact Nat.lt_of_lt_of_le hpos (resolvableOne_le_resolvable hu t)
    rw [modernise] at heq
    rw [heq] at hbraces
    omega
  · exact substitute_fst_of_unresolved

/-- With the built-in catalog, a text stays as it is exactly if none of its tokens has an
expression. -/
theorem modernise_builtin_fst_eq_iff (scope : SecretScope) (t : Text) :
    ((builtin scope).modernise t).1 = t ↔ ∀ w ∈ tokens t, (builtin scope).current? w = none := by
  refine modernise_fst_eq_iff fun w hw v hv hmem => ?_
  exact ((isPlain_of_builtin (Token.isToken_of_mem_tokens hw) hv).2.2 _ hmem).2.1 rfl

/-- With the built-in catalog, a second substitution changes nothing exactly if the first one keeps
up. -/
theorem modernise_modernise_iff (scope : SecretScope) (t : Text) :
    ((builtin scope).modernise ((builtin scope).modernise t).1).1 = ((builtin scope).modernise t).1 ↔
      (builtin scope).KeepsUp (tokens t) t := by
  rw [modernise_builtin_fst_eq_iff]
  constructor
  · exact keepsUp_of_unresolved fun w hw => Token.isToken_of_mem_tokens hw
  · intro h u hu
    rcases h.token_cases hu with ⟨_, hnone⟩ | ⟨hmem, hnotMem⟩
    · exact hnone
    · exact absurd hmem hnotMem

end Resolver
end ExprMigration
