import ExprMigration.Proofs.Substitution.Insertion

/-!
# Spans of tokens

Two tokens that stand in one text are the same token at the same place, or one ends before the other
begins (`equal_or_apart`): behind the opening of an enclosed text there is no other opening up to its
end.  So a text that ends where a token begins is read as if it stood alone (`pieces_append_token`), and
replacing a token leaves every other one whole, in its place between what became of the texts around it
(`replaceAll_append_token`).
-/

namespace ExprMigration

/-- A text stands in `t` at a place. -/
def Text.StandsAt (t mark : Text) (place : Nat) : Prop := mark <+: t.drop place

instance (t mark : Text) (place : Nat) : Decidable (t.StandsAt mark place) :=
  inferInstanceAs (Decidable (_ <+: _))

namespace Token

variable {t u v w : Text} {place other : Nat}

/-! ## Two places -/

theorem IsEnclosed.eq_of_standsAt (hu : IsEnclosed u) (hv : IsEnclosed v)
    (huAt : t.StandsAt u place) (hvAt : t.StandsAt v place) : u = v := by
  obtain ⟨s, hs⟩ := hvAt
  rw [Text.StandsAt, ← hs] at huAt
  exact hu.eq_of_prefix hv huAt

/-- An enclosed text ends before a later one begins. -/
theorem IsEnclosed.length_le_of_standsAt (hu : IsEnclosed u) (hv : IsEnclosed v)
    (huAt : t.StandsAt u place) (hvAt : t.StandsAt v other) (hlt : place < other) :
    place + u.length ≤ other := by
  by_contra hover
  -- `v` would begin inside `u`
  obtain ⟨s, hs⟩ := huAt
  have hrest : t.drop other = u.drop (other - place) ++ s := by
    rw [← List.drop_append_of_le_length (by omega), hs, List.drop_drop]
    congr 1
    omega
  have hfront : u.take (other - place) ≠ [] := by
    simp [hu.ne_nil]
    omega
  have hback : u.drop (other - place) ≠ [] := by
    simp
    omega
  rw [Text.StandsAt, hrest] at hvAt
  exact hu.not_prefix_inside hv (List.take_append_drop _ u).symm hfront hback hvAt

theorem IsToken.infix_iff (hu : IsToken u) (hv : IsToken v) : u <:+: v ↔ u = v := by
  refine ⟨fun h => ?_, fun h => h ▸ List.infix_refl u⟩
  have hpart : u <:+: v ++ [] := by simpa using h
  rcases infix_of_infix_append hu hv hpart with heq | hnil
  · exact heq
  · exact absurd (List.infix_nil.1 hnil) hu.isEnclosed.ne_nil

/-! ## Replacing beside a token -/

/-- What stands in front of a token is read as if it stood alone: no token reaches over the beginning
of another one. -/
theorem pieces_append_token (hw : IsToken w) (a b : Text) :
    pieces (a ++ w ++ b) = pieces a ++ .token w :: pieces b := by
  rw [List.append_assoc]
  induction a using pieces_induction with
  | nil => exact pieces_append hw b
  | token u r hu ih => rw [List.append_assoc, pieces_append hu, pieces_append hu, ih]; rfl
  | char c cs h ih =>
    have hnone : first? (c :: (cs ++ (w ++ b))) = none := by
      refine first?_eq_none_iff.2 fun u hu hp => ?_
      obtain ⟨s, hs⟩ := hp
      rcases List.append_eq_append_iff.1 (hs.trans (List.cons_append ..).symm) with
        ⟨n, hn, -⟩ | ⟨n, rfl, hn⟩
      · exact first?_eq_none_iff.1 h u hu ⟨n, hn.symm⟩
      · by_cases hn0 : n = []
        · exact first?_eq_none_iff.1 h _ hu ⟨[], by simp [hn0]⟩
        · -- the opening of `w` stands inside `u`
          refine hu.isEnclosed.not_opening_inside rfl (by simp) hn0 (r := s) ?_
          exact hn ▸ hw.isEnclosed.opening_prefix.trans (List.prefix_append w b)
    rw [List.cons_append, pieces_cons hnone, pieces_cons h, ih]
    rfl

theorem Piece.insert_append (f : Text → Option Text) (ps qs : List Piece) :
    insert f (ps ++ qs) = insert f ps ++ insert f qs := by
  induction ps with
  | nil => rfl
  | cons p ps ih =>
    cases p with
    | char c => simp [insert, ih]
    | token u => cases hu : f u <;> simp [insert, hu, ih]

/-- Replacing a token leaves an occurrence of another one whole, and replaces in front of it and behind
it as if these texts stood alone. -/
theorem replaceAll_append_token (hu : IsToken u) (hw : IsToken w) (hne : w ≠ u) (a b : Text) :
    Text.replaceAll u v (a ++ w ++ b) = Text.replaceAll u v a ++ w ++ Text.replaceAll u v b := by
  rw [replaceAll_eq_textOf hu, replaceAll_eq_textOf hu, replaceAll_eq_textOf hu,
    pieces_append_token hw, Piece.insert_append, Piece.textOf_append, Piece.insert,
    Piece.only_of_ne hne, Piece.textOf_token, List.append_assoc]

/-! ## Occurrences -/

/-- Two tokens that stand in a text are the same token at the same place, or one ends before the other
begins.  So no token stands inside another one, a token does not overlap a later occurrence of itself,
and replacing a token leaves every occurrence of another one whole. -/
theorem equal_or_apart :
    (∀ (t u v : Text) (i j : Nat), IsGeneric u ∨ IsSecret u → IsGeneric v ∨ IsSecret v →
      t.StandsAt u i → t.StandsAt v j →
      i = j ∧ u = v ∨ i + u.length ≤ j ∨ j + v.length ≤ i) ∧
    (∀ u v : Text, IsGeneric u ∨ IsSecret u → IsGeneric v ∨ IsSecret v → (u <:+: v ↔ u = v)) ∧
    (∀ (t u : Text) (i j : Nat), IsGeneric u ∨ IsSecret u → t.StandsAt u i → t.StandsAt u j →
      i < j → i + u.length ≤ j) ∧
    (∀ u v w a b : Text, IsGeneric u ∨ IsSecret u → IsGeneric w ∨ IsSecret w → w ≠ u →
      Text.replaceAll u v (a ++ w ++ b) =
        Text.replaceAll u v a ++ w ++ Text.replaceAll u v b) := by
  refine ⟨fun t u v i j hu hv huAt hvAt => ?_, fun u v => IsToken.infix_iff,
    fun t u i j hu => (IsToken.isEnclosed hu).length_le_of_standsAt (IsToken.isEnclosed hu),
    fun u v w a b hu hw hne => replaceAll_append_token hu hw hne a b⟩
  have hu : IsEnclosed u := IsToken.isEnclosed hu
  have hv : IsEnclosed v := IsToken.isEnclosed hv
  rcases Nat.lt_trichotomy i j with hlt | rfl | hlt
  · exact .inr (.inl (hu.length_le_of_standsAt hv huAt hvAt hlt))
  · exact .inl ⟨rfl, hu.eq_of_standsAt hv huAt hvAt⟩
  · exact .inr (.inr (hv.length_le_of_standsAt hu hvAt huAt hlt))

/-- A token that is only secret: its argument holds a dollar and a blank. -/
def dollarSecret : Text := "${secrets.getValue($ b)}".toList

/-- The secret token between two occurrences of a generic one. -/
def besideSecret : Text := "${a}".toList ++ dollarSecret ++ "${a}".toList

/-- The generic token ends before the secret one begins, is no part of it, does not overlap itself, and is
replaced on both sides of it. -/
theorem equal_or_apart_besideSecret :
    besideSecret.StandsAt "${a}".toList 0 ∧ besideSecret.StandsAt dollarSecret 4 ∧
    besideSecret.StandsAt "${a}".toList 28 ∧
    (0 = 4 ∧ "${a}".toList = dollarSecret ∨ 0 + "${a}".toList.length ≤ 4 ∨
      4 + dollarSecret.length ≤ 0) ∧
    ¬ "${a}".toList <:+: dollarSecret ∧ 0 + "${a}".toList.length ≤ 28 ∧
    Text.replaceAll "${a}".toList "<+a>".toList besideSecret =
      "<+a>".toList ++ dollarSecret ++ "<+a>".toList := by
  obtain ⟨hspans, hpart, hself, hreplace⟩ := equal_or_apart
  have hgeneric : IsGeneric "${a}".toList ∨ IsSecret "${a}".toList := by decide +kernel
  have hsecret : IsGeneric dollarSecret ∨ IsSecret dollarSecret := by decide +kernel
  have hfirst : besideSecret.StandsAt "${a}".toList 0 := by decide +kernel
  have hmiddle : besideSecret.StandsAt dollarSecret 4 := by decide +kernel
  have hlast : besideSecret.StandsAt "${a}".toList 28 := by decide +kernel
  have hne : dollarSecret ≠ "${a}".toList := by decide
  refine ⟨hfirst, hmiddle, hlast, hspans _ _ _ _ _ hgeneric hsecret hfirst hmiddle,
    fun h => hne ((hpart _ _ hgeneric hsecret).1 h).symm,
    hself _ _ _ _ hgeneric hfirst hlast (by decide), ?_⟩
  have hvalue : Text.replaceAll "${a}".toList "<+a>".toList "${a}".toList = "<+a>".toList := by
    decide +kernel
  rw [besideSecret, hreplace _ _ _ _ _ hgeneric hsecret hne, hvalue]

end Token
end ExprMigration
