import ExprMigration.Proofs.Token.Pieces

/-!
# Reading pieces anew

A substitution turns the pieces of a text into other pieces, in which an inserted expression stands as
a run of characters.  Reading the new text may find tokens in such runs, and across them.  `Gathers`
says how the pieces before and after such a reading are related; the main statement is
`gathers_pieces`.
-/

namespace ExprMigration
namespace Token

/-! ## Gathering runs of characters -/

/-- `Gathers ps qs` says that `qs` are the pieces `ps` with some runs of characters gathered into
tokens. -/
inductive Gathers : List Piece → List Piece → Prop where
  | nil : Gathers [] []
  | keep {ps qs : List Piece} (p : Piece) : Gathers ps qs → Gathers (p :: ps) (p :: qs)
  | gather {ps qs : List Piece} {w : Text} :
      IsToken w → Gathers ps qs → Gathers (Piece.chars w ++ ps) (.token w :: qs)

/-- The rest of a token that is read in some pieces is read in their characters: a token among them
would begin inside it. -/
theorem eq_chars_append_of_prefix {w a m : Text} {ps : List Piece} (hw : IsEnclosed w)
    (ham : w = a ++ m) (ha : a ≠ []) (hps : ∀ u, .token u ∈ ps → IsToken u)
    (hm : m <+: Piece.textOf ps) : ∃ qs, ps = Piece.chars m ++ qs := by
  induction m generalizing a ps with
  | nil => exact ⟨ps, rfl⟩
  | cons d m ih =>
    cases ps with
    | nil => simp at hm
    | cons p ps =>
      cases p with
      | char c =>
        rw [Piece.textOf_char, List.cons_prefix_cons] at hm
        obtain ⟨rfl, hm⟩ := hm
        obtain ⟨qs, rfl⟩ := ih (a := a ++ [d]) (by simp [ham]) (by simp)
          (fun u hu => hps u (List.mem_cons_of_mem _ hu)) hm
        exact ⟨qs, rfl⟩
      | token u =>
        -- the opening of `u` stands at `d :: m`, inside `w`
        obtain ⟨s, hs⟩ := hm
        have hu := (hps u List.mem_cons_self).isEnclosed
        refine absurd (hu.opening_prefix.trans ?_)
          (hw.not_opening_inside (r := s) ham ha (by simp))
        exact ⟨Piece.textOf ps, by rw [hs]; rfl⟩

/-- Reading the text of some pieces anew keeps the tokens among them and gathers runs of characters
into further ones. -/
theorem gathers_pieces {ps : List Piece} (hps : ∀ u, .token u ∈ ps → IsToken u) :
    Gathers ps (pieces (Piece.textOf ps)) := by
  induction hn : ps.length using Nat.strong_induction_on generalizing ps with
  | _ n ih =>
    subst hn
    cases ps with
    | nil => exact .nil
    | cons p ps =>
      have hrest : ∀ u, .token u ∈ ps → IsToken u := fun u hu => hps u (List.mem_cons_of_mem _ hu)
      cases p with
      | token u =>
        rw [Piece.textOf_token, pieces_append (hps u List.mem_cons_self)]
        exact .keep _ (ih _ (by simp) hrest rfl)
      | char c =>
        rw [Piece.textOf_char]
        rcases hfirst : first? (c :: Piece.textOf ps) with _ | w
        · rw [pieces_cons hfirst]
          exact .keep _ (ih _ (by simp) hrest rfl)
        · obtain ⟨hw, hp⟩ := first?_eq_some_iff.1 hfirst
          cases w with
          | nil => exact absurd rfl hw.isEnclosed.ne_nil
          | cons d m =>
            obtain ⟨rfl, hm⟩ := List.cons_prefix_cons.1 hp
            obtain ⟨qs, rfl⟩ := eq_chars_append_of_prefix hw.isEnclosed (a := [d]) rfl (by simp)
              hrest hm
            have hread : pieces (d :: Piece.textOf (Piece.chars m ++ qs))
                = .token (d :: m) :: pieces (Piece.textOf qs) := by
              rw [Piece.textOf_chars_append]
              exact pieces_append hw (Piece.textOf qs)
            rw [hread]
            have hlength : qs.length < (Piece.char d :: (Piece.chars m ++ qs)).length := by
              rw [List.length_cons, List.length_append]
              omega
            exact .gather hw (ih _ hlength (fun u hu => hrest u (by simp [hu])) rfl)

namespace Gathers

variable {ps qs : List Piece}

/-- No token is lost. -/
theorem count_le (h : Gathers ps qs) (u : Text) : ps.count (.token u) ≤ qs.count (.token u) := by
  induction h with
  | nil => exact Nat.le_refl _
  | keep p _ ih => simpa [List.count_cons] using ih
  | @gather ps qs w _ _ ih =>
    have hchars : (Piece.chars w).count (.token u) = 0 := List.count_eq_zero.2 (by simp)
    rw [List.count_append, List.count_cons, hchars]
    omega

/-- A token that is there afterwards was there before or is a run of characters. -/
theorem token_cases (h : Gathers ps qs) {u : Text} (hu : .token u ∈ qs) :
    .token u ∈ ps ∨ ∃ as bs, ps = as ++ Piece.chars u ++ bs := by
  induction h with
  | nil => simp at hu
  | @keep ps qs p _ ih =>
    rcases List.mem_cons.1 hu with rfl | hu
    · exact .inl List.mem_cons_self
    · rcases ih hu with hu | ⟨as, bs, rfl⟩
      · exact .inl (List.mem_cons_of_mem _ hu)
      · exact .inr ⟨p :: as, bs, rfl⟩
  | @gather ps qs w _ _ ih =>
    rcases List.mem_cons.1 hu with hu | hu
    · cases hu
      exact .inr ⟨[], ps, rfl⟩
    · rcases ih hu with hu | ⟨as, bs, rfl⟩
      · exact .inl (List.mem_append_right _ hu)
      · exact .inr ⟨Piece.chars w ++ as, bs, by simp⟩

/-- Without a run of characters that is a token, nothing is gathered. -/
theorem eq_of_no_run (h : Gathers ps qs)
    (hrun : ∀ as w bs, ps = as ++ Piece.chars w ++ bs → ¬ IsToken w) : qs = ps := by
  induction h with
  | nil => rfl
  | keep p _ ih =>
    rw [ih fun as w bs hs => hrun (p :: as) w bs (by simp [hs])]
  | @gather ps qs w hw _ _ => exact absurd hw (hrun [] w ps rfl)

/-- Tokens of a kind of which no run is gathered stay as they are, in their order. -/
theorem filter_tokens_eq (h : Gathers ps qs) {p : Text → Bool}
    (hrun : ∀ as w bs, ps = as ++ Piece.chars w ++ bs → IsToken w → p w = false) :
    (Piece.tokens qs).filter p = (Piece.tokens ps).filter p := by
  induction h with
  | nil => rfl
  | @keep ps qs q _ ih =>
    have hrest := ih fun as w bs hs => hrun (q :: as) w bs (by simp [hs])
    cases q <;> simp [Piece.tokens, List.filter_cons, hrest]
  | @gather ps qs w hw _ ih =>
    have hrest := ih fun as w' bs hs => hrun (Piece.chars w ++ as) w' bs (by simp [hs])
    rw [Piece.tokens, List.filter_cons, hrun [] w ps rfl hw, Piece.tokens_chars_append, hrest]
    simp

/-- If the tokens that `f` changes are not more than before, `f` writes the same text. -/
theorem write_eq (h : Gathers ps qs) {f : Text → Text}
    (hf : ∀ u, f u ≠ u → qs.count (.token u) ≤ ps.count (.token u)) :
    Piece.write f qs = Piece.write f ps := by
  induction h with
  | nil => rfl
  | @keep ps qs p _ ih =>
    have hrest : Piece.write f qs = Piece.write f ps :=
      ih fun u hu => by simpa [List.count_cons] using hf u hu
    cases p <;> simp [Piece.write, hrest]
  | @gather ps qs w _ h ih =>
    have hcount (u : Text) :
        (Piece.chars w ++ ps).count (.token u) = ps.count (.token u) := by
      rw [List.count_append, List.count_eq_zero.2 (by simp), Nat.zero_add]
    have hrest : Piece.write f qs = Piece.write f ps := by
      refine ih fun u hu => ?_
      have := hf u hu
      rw [hcount, List.count_cons] at this
      omega
    -- a gathered token is one more than before, so `f` leaves it
    have hw : f w = w := by
      by_contra hne
      have := hf w hne
      rw [hcount, List.count_cons_self] at this
      exact absurd (h.count_le w) (by omega)
    simp [Piece.write, Piece.write_append, hw, hrest]

end Gathers

/-! ## Runs in the pieces of a text -/

theorem pieces_textOf_of_append {t : Text} {ps qs : List Piece} (h : pieces t = ps ++ qs) :
    qs = pieces (Piece.textOf qs) := by
  induction t using pieces_induction generalizing ps with
  | nil =>
    obtain ⟨_, rfl⟩ := List.append_eq_nil_iff.1 (h.symm.trans pieces_nil)
    rfl
  | char c cs hc ih =>
    rw [pieces_cons hc] at h
    cases ps with
    | nil => rw [← List.nil_append qs, ← h, Piece.textOf_char, textOf_pieces, pieces_cons hc]
    | cons p ps => exact ih (List.cons.inj h).2
  | token u r hu ih =>
    rw [pieces_append hu] at h
    cases ps with
    | nil => rw [← List.nil_append qs, ← h, Piece.textOf_token, textOf_pieces, pieces_append hu]
    | cons p ps => exact ih (List.cons.inj h).2

/-- No run of characters among the pieces of a text is a token. -/
theorem not_isToken_of_run {t w : Text} {ps qs : List Piece}
    (h : pieces t = ps ++ Piece.chars w ++ qs) : ¬ IsToken w := by
  intro hw
  have hread : Piece.chars w ++ qs = .token w :: pieces (Piece.textOf qs) := by
    rw [pieces_textOf_of_append (h.trans (List.append_assoc ..)), Piece.textOf_chars_append,
      pieces_append hw]
  cases w with
  | nil => exact absurd rfl hw.isEnclosed.ne_nil
  | cons c w => simp at hread

end Token
end ExprMigration
