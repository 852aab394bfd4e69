import ExprMigration.Proofs.Token.Pieces

/-!
# Extraction

`tokens` lists the texts of the two languages that occur in a text, each once: first the generic ones,
then those that are only secret, both in the order of their first occurrences
(`tokens_eq_append_of_firstBefore`).  Both scans are selections from the pieces, and the first piece of
a token is its first occurrence (`pairwise_firstBefore_distinct`).
-/

namespace ExprMigration

/-! ## First occurrences -/

namespace Text

/-- A text occurs in `t` at a place, and at none before it. -/
def FirstAt (t mark : Text) (place : Nat) : Prop :=
  mark <+: t.drop place ∧ ∀ earlier < place, ¬ mark <+: t.drop earlier

/-- Two texts occur in `t`, the first occurrence of the one before that of the other. -/
def FirstBefore (t u v : Text) : Prop :=
  ∃ place later, FirstAt t u place ∧ FirstAt t v later ∧ place < later

variable {t mark u v a : Text} {place : Nat} {c : Char}

theorem firstAt_zero (h : mark <+: t) : FirstAt t mark 0 := ⟨h, by simp⟩

theorem FirstAt.cons (h : FirstAt t mark place) (hc : ¬ mark <+: c :: t) :
    FirstAt (c :: t) mark (place + 1) := by
  refine ⟨h.1, fun earlier hlt => ?_⟩
  cases earlier with
  | zero => exact hc
  | succ earlier => exact h.2 earlier (by omega)

/-- A text in front, in which `mark` does not begin, moves its first occurrence. -/
theorem FirstAt.append (h : FirstAt t mark place)
    (ha : ∀ b c, a = b ++ c → c ≠ [] → ¬ mark <+: c ++ t) :
    FirstAt (a ++ t) mark (a.length + place) := by
  induction a with
  | nil => simpa using h
  | cons d a ih =>
    have hrest := ih fun b c hbc hc => ha (d :: b) c (by simp [hbc]) hc
    have hcons := hrest.cons (ha [] (d :: a) rfl (by simp))
    rwa [Nat.add_right_comm] at hcons

theorem exists_firstAt (h : mark <:+: t) : ∃ place, FirstAt t mark place := by
  induction t with
  | nil => exact ⟨0, firstAt_zero (by simpa using h)⟩
  | cons c t ih =>
    by_cases hp : mark <+: c :: t
    · exact ⟨0, firstAt_zero hp⟩
    · obtain ⟨place, hplace⟩ := ih ((List.infix_cons_iff.1 h).resolve_left hp)
      exact ⟨place + 1, hplace.cons hp⟩

theorem FirstBefore.append (h : FirstBefore t u v)
    (hu : ∀ b c, a = b ++ c → c ≠ [] → ¬ u <+: c ++ t)
    (hv : ∀ b c, a = b ++ c → c ≠ [] → ¬ v <+: c ++ t) : FirstBefore (a ++ t) u v := by
  obtain ⟨place, later, hplace, hlater, hlt⟩ := h
  exact ⟨_, _, hplace.append hu, hlater.append hv, by omega⟩

end Text

namespace Token

/-! ## The order of the pieces -/

theorem eraseDups_filter {α : Type} [BEq α] [LawfulBEq α] (p : α → Bool) (l : List α) :
    (l.filter p).eraseDups = l.eraseDups.filter p := by
  induction hn : l.length using Nat.strong_induction_on generalizing l with
  | _ n ih =>
    subst hn
    cases l with
    | nil => rfl
    | cons a l =>
      have hrest : ((l.filter p).filter fun b => !b == a).eraseDups =
          (l.filter fun b => !b == a).eraseDups.filter p := by
        rw [← ih _ (Nat.lt_succ_of_le (List.length_filter_le _ l)) _ rfl, List.filter_filter,
          List.filter_filter]
        simp only [Bool.and_comm]
      rw [List.eraseDups_cons, List.filter_cons, List.filter_cons]
      by_cases ha : p a
      · simp only [ha, if_true, List.eraseDups_cons, hrest]
      · -- what `p` selects does not hold `a` anyway
        have hnone : (l.filter p).filter (fun b => !b == a) = l.filter p := by
          rw [List.filter_eq_self]
          intro b hb
          have hpb := (List.mem_filter.1 hb).2
          simp only [Bool.not_eq_true', beq_eq_false_iff_ne]
          rintro rfl
          exact ha hpb
        simp only [ha, if_false, Bool.false_eq_true, ← hrest, hnone]

/-- The tokens among the pieces of a text, each once. -/
def distinct (t : Text) : List Text := (Piece.tokens (pieces t)).eraseDups

theorem mem_distinct {t u : Text} : u ∈ distinct t ↔ IsToken u ∧ u <:+: t := by
  rw [distinct, List.mem_eraseDups, Piece.mem_tokens, token_mem_pieces_iff]

/-- The tokens among the pieces come in the order of their first occurrences. -/
theorem pairwise_firstBefore_distinct (t : Text) : (distinct t).Pairwise (Text.FirstBefore t) := by
  induction t using pieces_induction with
  | nil => simp [distinct, Piece.tokens]
  | char c cs h ih =>
    have hdistinct : distinct (c :: cs) = distinct cs := by
      simp [distinct, pieces_cons h, Piece.tokens]
    rw [hdistinct]
    refine ih.imp_of_mem fun {u v} hu hv huv => ?_
    have hnone {w : Text} (hw : w ∈ distinct cs) :
        ∀ b d, [c] = b ++ d → d ≠ [] → ¬ w <+: d ++ cs := by
      intro b d hbd hd
      obtain ⟨rfl, rfl⟩ : b = [] ∧ d = [c] := by
        cases b with
        | nil => exact ⟨rfl, hbd.symm⟩
        | cons x b => simp at hbd; exact absurd hbd.2.2 hd
      exact first?_eq_none_iff.1 h w (mem_distinct.1 hw).1
    exact huv.append (hnone hu) (hnone hv)
  | token w r hw ih =>
    have hdistinct : distinct (w ++ r) = w :: (distinct r).filter fun u => !u == w := by
      rw [distinct, pieces_append hw, Piece.tokens, List.eraseDups_cons, eraseDups_filter, distinct]
    rw [hdistinct, List.pairwise_cons]
    have hnone {u : Text} (hu : u ∈ (distinct r).filter fun u => !u == w) :
        u <:+: r ∧ ∀ b c, w = b ++ c → c ≠ [] → ¬ u <+: c ++ r := by
      obtain ⟨hmem, hne⟩ := List.mem_filter.1 hu
      obtain ⟨huToken, hur⟩ := mem_distinct.1 hmem
      have hne : w ≠ u := by
        rintro rfl
        simp at hne
      exact ⟨hur, fun b c => huToken.not_prefix_of_ne hw hne⟩
    refine ⟨fun u hu => ?_, (ih.filter _).imp_of_mem fun hu hv huv =>
      huv.append (hnone hu).2 (hnone hv).2⟩
    obtain ⟨hur, hnot⟩ := hnone hu
    obtain ⟨place, hplace⟩ := Text.exists_firstAt hur
    have hpos : 0 < w.length := List.length_pos_iff.2 hw.isEnclosed.ne_nil
    exact ⟨0, w.length + place, Text.firstAt_zero ⟨r, rfl⟩, hplace.append hnot, by omega⟩

/-! ## Both languages -/

/-- The generic tokens among the pieces, and then the others. -/
theorem tokens_eq_append (t : Text) :
    tokens t = (distinct t).filter (IsGeneric ·) ++ (distinct t).filter (¬ IsGeneric ·) := by
  have hsecret : (((Piece.tokens (pieces t)).filter (IsSecret ·)).removeAll
      ((Piece.tokens (pieces t)).filter (IsGeneric ·))) =
        (Piece.tokens (pieces t)).filter (¬ IsGeneric ·) := by
    rw [List.removeAll, List.filter_filter]
    refine List.filter_congr fun u hu => ?_
    have htoken : IsGeneric u ∨ IsSecret u := isToken_of_mem_pieces (Piece.mem_tokens.1 hu)
    by_cases hg : IsGeneric u
    · simp [hg, hu]
    · simp [hg, htoken.resolve_left hg]
  rw [tokens, scanFrom_eq_filter (fun _ _ => generic?_eq_some_iff) fun _ => .inl,
    scanFrom_eq_filter (fun _ _ => secret?_eq_some_iff) fun _ => .inr, List.eraseDups_append,
    hsecret, eraseDups_filter, eraseDups_filter, distinct]

/-- A property that only generic tokens have selects them in the order of the text. -/
theorem filter_tokens_eq_filter_distinct {t : Text} {p : Text → Bool}
    (hp : ∀ u, IsToken u → p u → IsGeneric u) : (tokens t).filter p = (distinct t).filter p := by
  have hothers : (distinct t).filter (fun u => p u && decide (¬ IsGeneric u)) = [] := by
    rw [List.filter_eq_nil_iff]
    intro u hu
    have hgeneric := hp u (mem_distinct.1 hu).1
    simpa using hgeneric
  rw [tokens_eq_append, List.filter_append, List.filter_filter, List.filter_filter, hothers,
    List.append_nil]
  refine List.filter_congr fun u hu => ?_
  have hgeneric := hp u (mem_distinct.1 hu).1
  by_cases hpu : p u
  · simp [hpu, hgeneric hpu]
  · simp [hpu]

/-- Extraction lists exactly the texts of the two languages that occur in a text, each once: first the
generic ones, then those that are only secret, both in the order of their first occurrences. -/
theorem tokens_eq_append_of_firstBefore (t : Text) :
    (∀ u, u ∈ tokens t ↔ u <:+: t ∧ (IsGeneric u ∨ IsSecret u)) ∧ (tokens t).Nodup ∧
    ∃ generics secrets, tokens t = generics ++ secrets ∧
      (∀ u ∈ generics, IsGeneric u) ∧ (∀ u ∈ secrets, IsSecret u ∧ ¬ IsGeneric u) ∧
      generics.Pairwise (Text.FirstBefore t) ∧ secrets.Pairwise (Text.FirstBefore t) := by
  refine ⟨fun u => mem_tokens_iff.trans and_comm, nodup_tokens t, _, _, tokens_eq_append t, ?_, ?_,
    (pairwise_firstBefore_distinct t).filter _, (pairwise_firstBefore_distinct t).filter _⟩
  · intro u hu
    simpa using (List.mem_filter.1 hu).2
  · intro u hu
    obtain ⟨hmem, hnot⟩ := List.mem_filter.1 hu
    have hnot : ¬ IsGeneric u := by simpa using hnot
    exact ⟨(mem_distinct.1 hmem).1.resolve_left hnot, hnot⟩

/-- A secret that is not generic comes last, wherever it stands. -/
example : tokens "${secrets.getValue(a b)} ${b} ${${a}} $${b}".toList =
    ["${b}".toList, "${a}".toList, "${secrets.getValue(a b)}".toList] := by decide +kernel

end Token
end ExprMigration
