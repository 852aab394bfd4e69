import ExprMigration.Proofs.Catalog.Values

/-!
# Substitution in one pass

`Resolver.substitute` replaces one token after the other in a text that changes under its hands.
`Resolver.inOnePass` is what that is meant to do: it reads the original text once, from left to
right, and puts each current expression in the place of its token.  The two agree as long as no
replacement changes how often a token occurs that still has its turn (`Resolver.Undisturbed`), which
holds for a flat text with plain expressions, whatever the order of the tokens.
-/

namespace ExprMigration
namespace Resolver

open Token (pieces first? IsToken IsFlat IsPlain Piece)

/-! ## The turn of a token -/

/-- The current expression for a token, if there is one. -/
def current? (resolver : Resolver) (token : Text) : Option Text :=
  (resolver.resolveToken token).value?

/-- A text after the turn of a token. -/
def replaceOne (resolver : Resolver) (token t : Text) : Text :=
  match resolver.current? token with
  | some value => Text.replaceAll token value t
  | none => t

section Turn

variable {resolver : Resolver} {token : Text}

theorem replaceOne_some {value : Text} (h : resolver.current? token = some value) (t : Text) :
    resolver.replaceOne token t = Text.replaceAll token value t := by
  simp [replaceOne, h]

theorem replaceOne_none (h : resolver.current? token = none) (t : Text) :
    resolver.replaceOne token t = t := by
  simp [replaceOne, h]

theorem isResolved_eq (resolver : Resolver) (token : Text) :
    (resolver.resolveToken token).isResolved = (resolver.current? token).isSome := rfl

end Turn

variable (resolver : Resolver)

theorem substitute_fst_cons (token : Text) (rest : List Text) (t : Text) :
    (resolver.substitute (token :: rest) t).1 =
      (resolver.substitute rest (resolver.replaceOne token t)).1 := by
  rcases h : resolver.current? token with _ | value
  · rw [replaceOne_none h]
    simp only [current?] at h
    simp [substitute, h]
  · rw [replaceOne_some h]
    simp only [current?] at h
    simp [substitute, h]

/-- The tokens that are left are the given ones without a current expression, in their order. -/
theorem substitute_snd (ts : List Text) (t : Text) :
    (resolver.substitute ts t).2 = ts.filter fun u => !(resolver.resolveToken u).isResolved := by
  induction ts generalizing t with
  | nil => rfl
  | cons token rest ih =>
    rcases h : (resolver.resolveToken token).value? with _ | value
    · simp [substitute, h, Resolution.isResolved, ih]
    · simp [substitute, h, Resolution.isResolved, ih]

/-! ## One pass -/

/-- One pass over a text without its first `skip` characters. -/
def passFrom : Nat → Text → Text
  | _, [] => []
  | skip + 1, _ :: cs => passFrom skip cs
  | 0, c :: cs =>
    match first? (c :: cs) with
    | some token => (resolver.current? token).getD token ++ passFrom (token.length - 1) cs
    | none => c :: passFrom 0 cs

/-- A text read once from left to right, with its current expression in the place of each token that
has one and every other character as it is. -/
def inOnePass (t : Text) : Text := resolver.passFrom 0 t

/-- One pass writes the pieces of the text. -/
theorem inOnePass_eq_write (t : Text) :
    resolver.inOnePass t = Piece.write (fun u => (resolver.current? u).getD u) (pieces t) := by
  have h (skip : Nat) : resolver.passFrom skip t =
      Piece.write (fun u => (resolver.current? u).getD u) (Token.piecesFrom skip t) := by
    induction t generalizing skip with
    | nil => simp [passFrom, Token.piecesFrom, Piece.write]
    | cons c cs ih =>
      cases skip with
      | succ skip => exact ih skip
      | zero => cases hfirst : first? (c :: cs) <;>
          simp [passFrom, Token.piecesFrom, Piece.write, hfirst, ih]
  exact h 0

/-- The current expressions of some tokens only. -/
def among (ts : List Text) (u : Text) : Option Text :=
  if ts.contains u then resolver.current? u else none

theorem write_among_eq_inOnePass {ts : List Text} {t : Text} (h : ∀ u ∈ Token.tokens t, u ∈ ts) :
    Piece.write (fun u => (resolver.among ts u).getD u) (pieces t) = resolver.inOnePass t := by
  rw [inOnePass_eq_write]
  refine Piece.write_congr fun u hu => ?_
  rw [Token.token_mem_pieces_iff_mem_tokens] at hu
  simp [among, h u hu]

/-! ## Undisturbed substitutions -/

/-- At the turn of each token, every later token that has a current expression occurs as often
afterwards as before. -/
def Undisturbed : List Text → Text → Prop
  | [], _ => True
  | token :: rest, t =>
    (∀ later ∈ rest, (resolver.current? later).isSome →
      Text.occurrences later (resolver.replaceOne token t) = Text.occurrences later t) ∧
    Undisturbed rest (resolver.replaceOne token t)

instance decidableUndisturbed : ∀ (ts : List Text) (t : Text), Decidable (resolver.Undisturbed ts t)
  | [], _ => inferInstanceAs (Decidable True)
  | token :: rest, t =>
    have := decidableUndisturbed rest (resolver.replaceOne token t)
    inferInstanceAs (Decidable (_ ∧ _))

/-- An undisturbed substitution puts the expressions where their tokens stood in the original. -/
theorem substitute_fst_of_undisturbed {ts : List Text} {t : Text} (htoken : ∀ u ∈ ts, IsToken u)
    (hnodup : ts.Nodup) (h : resolver.Undisturbed ts t) :
    (resolver.substitute ts t).1 =
      Piece.write (fun u => (resolver.among ts u).getD u) (pieces t) := by
  induction ts generalizing t with
  | nil => exact (Token.textOf_pieces t).symm
  | cons token rest ih =>
    obtain ⟨hlater, hrest⟩ := h
    obtain ⟨hnotMem, hnodup⟩ := List.nodup_cons.1 hnodup
    obtain ⟨hhead, htoken⟩ := List.forall_mem_cons.1 htoken
    rw [substitute_fst_cons, ih htoken hnodup hrest]
    rcases hcurrent : resolver.current? token with _ | value
    · rw [replaceOne_none hcurrent]
      refine Piece.write_congr fun u _ => ?_
      by_cases hu : u = token
      · simp [among, hu, hcurrent]
      · simp [among, hu]
    · rw [replaceOne_some hcurrent] at hlater ⊢
      have hgathers := Token.gathers_replaceAll (v := value) hhead t
      rw [hgathers.write_eq fun u hu => ?_, Piece.write_insert]
      · refine Piece.write_congr fun u _ => ?_
        by_cases hu : u = token
        · simp [among, hu, Piece.only_self, hcurrent]
        · simp [among, hu, Piece.only_of_ne hu]
      · -- only a later token is written anew, and of those there are not more than before
        have hmem : u ∈ rest := by
          by_contra hnot
          exact hu (by simp [among, hnot])
        have hsome : (resolver.current? u).isSome := by
          by_contra hnone
          exact hu (by simp [among, Option.not_isSome_iff_eq_none.1 hnone])
        have hne : u ≠ token := fun heq => hnotMem (heq ▸ hmem)
        have hcount := hlater u hmem hsome
        rw [Token.occurrences_eq_count (htoken u hmem),
          Token.occurrences_eq_count (htoken u hmem)] at hcount
        rw [hcount, Piece.count_insert (Piece.only_of_ne hne value)]

/-- Plain expressions in a flat text disturb no token, in no order: the text in its turn is always
the original with some plain expressions inserted. -/
theorem undisturbed_of_flat {ts : List Text} {t : Text} (ht : IsFlat t)
    (htoken : ∀ u ∈ ts, IsToken u) (hnodup : ts.Nodup)
    (hplain : ∀ u ∈ ts, ∀ v ∈ resolver.current? u, IsPlain v) :
    resolver.Undisturbed ts t := by
  suffices h : ∀ f : Text → Option Text, (∀ u v, f u = some v → IsPlain v) →
      (∀ u ∈ ts, f u = none) →
      resolver.Undisturbed ts (Piece.textOf (Piece.insert f (pieces t))) by
    have hnone := h (fun _ => none) (by simp) (by simp)
    have htext : Piece.textOf (Piece.insert (fun _ => none) (pieces t)) = t := by
      rw [Piece.textOf, Piece.write_insert]
      exact Token.textOf_pieces t
    rwa [htext] at hnone
  intro f hf hfree
  -- `f` gathers the expressions whose turn is over
  induction ts generalizing f with
  | nil => trivial
  | cons token rest ih =>
    obtain ⟨hnotMem, hnodup⟩ := List.nodup_cons.1 hnodup
    obtain ⟨hhead, htoken⟩ := List.forall_mem_cons.1 htoken
    obtain ⟨hheadPlain, hplain⟩ := List.forall_mem_cons.1 hplain
    obtain ⟨_, hfree⟩ := List.forall_mem_cons.1 hfree
    have ih := ih htoken hnodup hplain
    rcases hcurrent : resolver.current? token with _ | value
    · refine ⟨?_, ?_⟩
      · simp [replaceOne_none hcurrent]
      · rw [replaceOne_none hcurrent]
        exact ih f hf hfree
    · -- after the turn, `token` has its expression too
      let g : Text → Option Text := fun u => (f u).or (Piece.only token value u)
      have hg : ∀ u v, g u = some v → IsPlain v := by
        intro u v hu
        rcases Option.or_eq_some_iff.1 hu with hu | ⟨_, hu⟩
        · exact hf u v hu
        · obtain ⟨rfl, rfl⟩ : u = token ∧ value = v := by simpa [Piece.only] using hu
          exact hheadPlain _ hcurrent
      have hgfree : ∀ u ∈ rest, g u = none := by
        intro u hu
        have hne : u ≠ token := fun heq => hnotMem (heq ▸ hu)
        simp [g, hfree u hu, Piece.only_of_ne hne]
      have hturn : resolver.replaceOne token (Piece.textOf (Piece.insert f (pieces t))) =
          Piece.textOf (Piece.insert g (pieces t)) := by
        rw [replaceOne_some hcurrent, Token.replaceAll_eq_textOf hhead, Token.pieces_insert ht hf,
          Piece.insert_insert]
      rw [Undisturbed, hturn]
      refine ⟨fun later hlater _ => ?_, ih g hg hgfree⟩
      have hlaterToken := htoken later hlater
      rw [Token.occurrences_eq_count hlaterToken, Token.occurrences_eq_count hlaterToken,
        Token.pieces_insert ht hg, Token.pieces_insert ht hf, Piece.count_insert (hgfree _ hlater),
        Piece.count_insert (hfree _ hlater)]

/-! ## Substitution is one pass -/

variable {resolver}

theorem isToken_of_perm {ts : List Text} {t : Text} (hts : ts.Perm (Token.tokens t)) :
    ∀ u ∈ ts, IsToken u :=
  fun _ hu => Token.isToken_of_mem_tokens (hts.mem_iff.1 hu)

theorem nodup_of_perm {ts : List Text} {t : Text} (hts : ts.Perm (Token.tokens t)) : ts.Nodup :=
  hts.nodup_iff.2 (Token.nodup_tokens t)

/-- An undisturbed substitution of all tokens, in any order, is one pass. -/
theorem substitute_fst_eq_inOnePass {ts : List Text} {t : Text} (hts : ts.Perm (Token.tokens t))
    (h : resolver.Undisturbed ts t) : (resolver.substitute ts t).1 = resolver.inOnePass t := by
  rw [substitute_fst_of_undisturbed resolver (isToken_of_perm hts) (nodup_of_perm hts) h]
  exact write_among_eq_inOnePass resolver fun u hu => hts.mem_iff.2 hu

/-- In a flat text in which every token has a plain expression or none, substituting the tokens in
any order is one pass over the original, and the tokens without an expression are left in that
order. -/
theorem substitute_eq_inOnePass {ts : List Text} {t : Text} (ht : IsFlat t)
    (hplain : ∀ u ∈ Token.tokens t, ∀ v ∈ resolver.current? u, IsPlain v)
    (hts : ts.Perm (Token.tokens t)) :
    resolver.substitute ts t =
      (resolver.inOnePass t, ts.filter fun u => !(resolver.resolveToken u).isResolved) := by
  have hundisturbed : resolver.Undisturbed ts t :=
    undisturbed_of_flat resolver ht (isToken_of_perm hts) (nodup_of_perm hts)
      fun u hu => hplain u (hts.mem_iff.1 hu)
  exact Prod.ext (substitute_fst_eq_inOnePass hts hundisturbed) (resolver.substitute_snd ts t)

/-- Two tokens in the order in which they do not stand. -/
theorem substitute_eq_inOnePass_env :
    (builtin .none).substitute ["${service.name}".toList, "${env.name}".toList]
        "${env.name}/${service.name}".toList =
      ("<+env.name>/<+service.name>".toList, []) := by
  rw [builtin_eq]
  exact (substitute_eq_inOnePass (by decide +kernel) (by decide +kernel)
    (by decide +kernel)).trans (by decide +kernel)

end Resolver
end ExprMigration
