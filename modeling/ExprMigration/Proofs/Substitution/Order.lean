import ExprMigration.Proofs.Substitution.OnePass

/-!
# The order of substitution

Which tokens are left does not depend on the order in which the tokens take their turns, and
undisturbed substitutions all give the same text.  A disturbed one need not: an expression that spells
another token is replaced in its turn if that turn is still to come (`substitute_spelling`).  For
expressions without an opening brace, every disturbed substitution gives a text of its own, since each
replacement takes one brace away and a disturbed substitution makes more of them
(`resolvable_eq_replacements_iff`).
-/

namespace ExprMigration
namespace Resolver

open Token (IsToken IsFlat IsPlain Piece)

variable (resolver : Resolver)

/-! ## Counting replacements -/

/-- How often a token occurs that has a current expression. -/
def resolvableOne (token t : Text) : Nat :=
  if (resolver.current? token).isSome then Text.occurrences token t else 0

/-- How often the given tokens occur that have a current expression. -/
def resolvable : List Text → Text → Nat
  | [], _ => 0
  | token :: rest, t => resolver.resolvableOne token t + resolvable rest t

/-- How many occurrences are replaced while the given tokens take their turns. -/
def replacements : List Text → Text → Nat
  | [], _ => 0
  | token :: rest, t =>
    resolver.resolvableOne token t + replacements rest (resolver.replaceOne token t)

theorem resolvable_perm {ts us : List Text} (h : ts.Perm us) (t : Text) :
    resolver.resolvable ts t = resolver.resolvable us t := by
  induction h with
  | nil => rfl
  | cons token _ ih => rw [resolvable, resolvable, ih]
  | swap token other rest =>
    simp only [resolvable]
    omega
  | trans _ _ ih ih' => exact ih.trans ih'

theorem occurrences_le_replaceOne {token u : Text} (htoken : IsToken token) (hu : IsToken u)
    (hne : u ≠ token) (t : Text) :
    Text.occurrences u t ≤ Text.occurrences u (resolver.replaceOne token t) := by
  rcases hcurrent : resolver.current? token with _ | value
  · rw [replaceOne_none hcurrent]
  · rw [replaceOne_some hcurrent]
    exact Token.occurrences_le_replaceAll htoken hu hne t

/-- A turn takes away no occurrence that waits for a later one. -/
theorem resolvable_le_replaceOne {token : Text} {rest : List Text} (htoken : IsToken token)
    (hrest : ∀ u ∈ rest, IsToken u) (hne : token ∉ rest) (t : Text) :
    resolver.resolvable rest t ≤ resolver.resolvable rest (resolver.replaceOne token t) ∧
    (resolver.resolvable rest t = resolver.resolvable rest (resolver.replaceOne token t) ↔
      ∀ later ∈ rest, (resolver.current? later).isSome →
        Text.occurrences later (resolver.replaceOne token t) = Text.occurrences later t) := by
  induction rest with
  | nil => simp [resolvable]
  | cons u rest ih =>
    obtain ⟨hu, hrest⟩ := List.forall_mem_cons.1 hrest
    obtain ⟨hnu, hne⟩ : token ≠ u ∧ token ∉ rest := by simpa using hne
    obtain ⟨hle, heq⟩ := ih hrest hne
    have hone := occurrences_le_replaceOne resolver htoken hu (Ne.symm hnu) t
    rw [resolvable, resolvable, List.forall_mem_cons, ← heq]
    by_cases hsome : (resolver.current? u).isSome
    · simp only [resolvableOne, hsome, if_true, true_implies]
      omega
    · simp only [resolvableOne, hsome, Bool.false_eq_true, if_false, false_implies, true_and]
      omega

variable {resolver}

theorem resolvableOne_le_resolvable {ts : List Text} {u : Text} (h : u ∈ ts) (t : Text) :
    resolver.resolvableOne u t ≤ resolver.resolvable ts t := by
  induction ts with
  | nil => simp at h
  | cons token rest ih =>
    rw [resolvable]
    rcases List.mem_cons.1 h with rfl | h
    · omega
    · have := ih h
      omega

/-- At least the occurrences of the original are replaced, and no others exactly if no turn disturbs
a later one. -/
theorem resolvable_eq_replacements_iff {ts : List Text} {t : Text} (htoken : ∀ u ∈ ts, IsToken u)
    (hnodup : ts.Nodup) :
    resolver.resolvable ts t ≤ resolver.replacements ts t ∧
    (resolver.resolvable ts t = resolver.replacements ts t ↔ resolver.Undisturbed ts t) := by
  induction ts generalizing t with
  | nil => simp [resolvable, replacements, Undisturbed]
  | cons token rest ih =>
    obtain ⟨hnotMem, hnodup⟩ := List.nodup_cons.1 hnodup
    obtain ⟨hhead, hrest⟩ := List.forall_mem_cons.1 htoken
    obtain ⟨hturn, hturnEq⟩ := resolvable_le_replaceOne resolver hhead hrest hnotMem t
    obtain ⟨hle, heq⟩ := ih (t := resolver.replaceOne token t) hrest hnodup
    -- two sums that grow at every turn are the same only if no turn makes them grow
    rw [resolvable, replacements, Undisturbed, ← hturnEq, ← heq]
    omega

/-! ## Braces -/

/-- The opening braces of a text. -/
def braces (t : Text) : Nat := t.count '\x7b'

theorem braces_append (s t : Text) : braces (s ++ t) = braces s + braces t := List.count_append

theorem braces_token {u : Text} (h : IsToken u) : braces u = 1 := by
  obtain ⟨inner, hinner, rfl⟩ := h.isEnclosed
  have hnone : inner.count '\x7b' = 0 := by
    rw [List.count_eq_zero]
    intro hmem
    exact absurd (hinner _ hmem) (by decide)
  simp [braces, Token.opening, Token.closing, hnone]

/-- Each replacement by an expression without an opening brace takes one away. -/
theorem braces_replaceAll {u v : Text} (hu : IsToken u) (hv : '\x7b' ∉ v) (t : Text) :
    braces (Text.replaceAll u v t) + Text.occurrences u t = braces t := by
  have hnone : braces v = 0 := List.count_eq_zero.2 hv
  rw [Token.replaceAll_eq_textOf hu, Token.occurrences_eq_count hu]
  conv_rhs => rw [← Token.textOf_pieces t]
  induction Token.pieces t with
  | nil => rfl
  | cons p ps ih =>
    cases p with
    | char c =>
      have hcons (s : Text) : braces (c :: s) = braces [c] + braces s := braces_append [c] s
      simp only [Piece.insert, Piece.textOf_char]
      rw [hcons, hcons (Piece.textOf ps), ← ih, List.count_cons]
      simp
      omega
    | token w =>
      by_cases hw : w = u
      · subst hw
        simp only [Piece.insert, Piece.only_self, Piece.textOf_chars_append, Piece.textOf_token,
          braces_append, hnone, braces_token hu, List.count_cons_self]
        omega
      · have hcount : (Piece.token w :: ps).count (.token u) = ps.count (.token u) := by
          simp [hw]
        simp only [Piece.insert, Piece.only_of_ne hw, Piece.textOf_token, braces_append, hcount]
        omega

/-- A substitution by expressions without an opening brace takes as many away as it replaces. -/
theorem braces_substitute {ts : List Text} (htoken : ∀ u ∈ ts, IsToken u)
    (hvalue : ∀ u ∈ ts, ∀ v ∈ resolver.current? u, '\x7b' ∉ v) (t : Text) :
    braces (resolver.substitute ts t).1 + resolver.replacements ts t = braces t := by
  induction ts generalizing t with
  | nil => rfl
  | cons token rest ih =>
    obtain ⟨hhead, htoken⟩ := List.forall_mem_cons.1 htoken
    obtain ⟨hheadValue, hvalue⟩ := List.forall_mem_cons.1 hvalue
    have hrest := ih htoken hvalue (resolver.replaceOne token t)
    rw [substitute_fst_cons, replacements, resolvableOne]
    rcases hcurrent : resolver.current? token with _ | value
    · rw [replaceOne_none hcurrent] at hrest ⊢
      simp
      omega
    · rw [replaceOne_some hcurrent] at hrest ⊢
      have hturn := braces_replaceAll hhead (hheadValue value hcurrent) t
      simp
      omega

/-! ## Two orders -/

section Orders

variable {ts us : List Text} {t : Text}

theorem substitute_snd_perm (h : ts.Perm us) :
    (resolver.substitute ts t).2.Perm (resolver.substitute us t).2 := by
  rw [substitute_snd, substitute_snd]
  exact h.filter _

/-- If no expression holds an opening brace, a substitution that gives the same text as an
undisturbed one is undisturbed. -/
theorem undisturbed_of_substitute_eq (hts : ts.Perm (Token.tokens t))
    (hus : us.Perm (Token.tokens t))
    (hvalue : ∀ u ∈ Token.tokens t, ∀ v ∈ resolver.current? u, '\x7b' ∉ v)
    (h : resolver.Undisturbed ts t)
    (heq : (resolver.substitute ts t).1 = (resolver.substitute us t).1) :
    resolver.Undisturbed us t := by
  have hbraces := braces_substitute (isToken_of_perm hts)
    (fun u hu => hvalue u (hts.mem_iff.1 hu)) t
  have hbraces' := braces_substitute (isToken_of_perm hus)
    (fun u hu => hvalue u (hus.mem_iff.1 hu)) t
  have hcount := (resolvable_eq_replacements_iff (isToken_of_perm hts) (nodup_of_perm hts)).2.2 h
  have hsame := resolvable_perm resolver (hts.trans hus.symm) t
  refine (resolvable_eq_replacements_iff (isToken_of_perm hus) (nodup_of_perm hus)).2.1 ?_
  rw [heq] at hbraces
  omega

/-- Substituting the tokens of a text in any two orders leaves the same tokens.  It gives the same
text if both substitutions are undisturbed, as they are in a flat text with plain expressions; and,
if no expression holds an opening brace, an undisturbed substitution agrees with another one only if
that is undisturbed too. -/
theorem substitute_perm (hts : ts.Perm (Token.tokens t)) (hus : us.Perm (Token.tokens t)) :
    (resolver.substitute ts t).2.Perm (resolver.substitute us t).2 ∧
    (resolver.Undisturbed ts t → resolver.Undisturbed us t →
      (resolver.substitute ts t).1 = (resolver.substitute us t).1) ∧
    (IsFlat t → (∀ u ∈ Token.tokens t, ∀ v ∈ resolver.current? u, IsPlain v) →
      resolver.Undisturbed ts t) ∧
    ((∀ u ∈ Token.tokens t, ∀ v ∈ resolver.current? u, '\x7b' ∉ v) →
      resolver.Undisturbed ts t →
      ((resolver.substitute ts t).1 = (resolver.substitute us t).1 ↔
        resolver.Undisturbed us t)) := by
  have hsame (h : resolver.Undisturbed ts t) (h' : resolver.Undisturbed us t) :
      (resolver.substitute ts t).1 = (resolver.substitute us t).1 := by
    rw [substitute_fst_eq_inOnePass hts h, substitute_fst_eq_inOnePass hus h']
  refine ⟨substitute_snd_perm (hts.trans hus.symm), hsame, ?_, ?_⟩
  · intro ht hplain
    exact undisturbed_of_flat resolver ht (isToken_of_perm hts) (nodup_of_perm hts)
      fun u hu => hplain u (hts.mem_iff.1 hu)
  · intro hvalue h
    exact ⟨undisturbed_of_substitute_eq hts hus hvalue h, hsame h⟩

end Orders

/-- Two tokens that do not disturb each other. -/
theorem substitute_perm_env :
    ((builtin .none).substitute ["${service.name}".toList, "${env.name}".toList]
        "${env.name}/${service.name}".toList).1 =
      ((builtin .none).substitute ["${env.name}".toList, "${service.name}".toList]
        "${env.name}/${service.name}".toList).1 := by
  have hts : ["${service.name}".toList, "${env.name}".toList].Perm
      (Token.tokens "${env.name}/${service.name}".toList) := by decide +kernel
  have hus : ["${env.name}".toList, "${service.name}".toList].Perm
      (Token.tokens "${env.name}/${service.name}".toList) := by decide +kernel
  rw [builtin_eq]
  have h := @substitute_perm ⟨Catalog.entries, Catalog.registry .none⟩ _ _ _ hts hus
  have hflat := h.2.2.1 (by decide +kernel) (by decide +kernel)
  exact (h.2.2.2 (by decide +kernel) hflat).2 (by decide +kernel)

/-- The catalog with two custom entries; the expression of one spells the token of the other. -/
def spelling : Resolver :=
  (builtin .none).merge [("a".toList, "${b}".toList), ("b".toList, "x".toList)]

/-- Two orders of the tokens of a text that give different texts. -/
theorem substitute_spelling :
    ["${a}".toList, "${b}".toList] = Token.tokens "${a} ${b}".toList ∧
    ["${b}".toList, "${a}".toList].Perm (Token.tokens "${a} ${b}".toList) ∧
    (spelling.substitute ["${a}".toList, "${b}".toList] "${a} ${b}".toList).1 = "x x".toList ∧
    (spelling.substitute ["${b}".toList, "${a}".toList] "${a} ${b}".toList).1 =
      "${b} x".toList := by
  rw [spelling, builtin_eq]
  decide +kernel

end Resolver
end ExprMigration
