import ExprMigration.Proofs.Token.Gathering
import Mathlib.Data.List.Infix

/-!
# Inserting expressions

Replacing a token in a text puts an expression in the place of each of its pieces
(`replaceAll_eq_textOf`).  An occurrence of another token is never lost by it, and the places where a
token can newly arise are known: such a token shows the first character of an inserted expression
(`head_mem_of_run`), and in a flat text, with plain expressions, there is none (`pieces_insert`).
-/

namespace ExprMigration

/-- How often a text that is not empty occurs in a text, counted at each place where it begins. -/
def Text.occurrences (mark : Text) : Text → Nat
  | [] => 0
  | c :: cs => (if (afterLead? mark (c :: cs)).isSome then 1 else 0) + occurrences mark cs

namespace Token

/-! ## Inserting at pieces -/

namespace Piece

/-- Pieces with the expression that `f` gives, character by character, in the place of each token for
which it gives one. -/
def insert (f : Text → Option Text) : List Piece → List Piece
  | [] => []
  | .char c :: ps => .char c :: insert f ps
  | .token u :: ps =>
    match f u with
    | some v => chars v ++ insert f ps
    | none => .token u :: insert f ps

/-- The expression `v` for the token `u` only. -/
def only (u v : Text) : Text → Option Text := fun w => if w = u then some v else none

theorem only_self (u v : Text) : only u v u = some v := if_pos rfl

theorem only_of_ne {u w : Text} (h : w ≠ u) (v : Text) : only u v w = none := if_neg h

variable {f g : Text → Option Text}

theorem insert_chars_append (t : Text) (ps : List Piece) :
    insert f (chars t ++ ps) = chars t ++ insert f ps := by
  induction t with
  | nil => rfl
  | cons c cs ih => simp [insert, ih]

theorem write_insert (h : Text → Text) (ps : List Piece) :
    write h (insert f ps) = write (fun u => (f u).getD (h u)) ps := by
  induction ps with
  | nil => rfl
  | cons p ps ih =>
    cases p with
    | char c => simp [insert, write, ih]
    | token u => cases hu : f u <;> simp [insert, write, write_append, hu, ih]

theorem token_mem_insert {u : Text} {ps : List Piece} :
    .token u ∈ insert f ps ↔ .token u ∈ ps ∧ f u = none := by
  induction ps with
  | nil => simp [insert]
  | cons p ps ih =>
    cases p with
    | char c => simp [insert, ih]
    | token w =>
      cases hw : f w with
      | some v =>
        simp only [insert, hw, List.mem_append, token_notMem_chars, false_or, ih, List.mem_cons,
          token.injEq]
        constructor
        · rintro ⟨hu, hf⟩
          exact ⟨.inr hu, hf⟩
        · rintro ⟨rfl | hu, hf⟩
          · simp [hw] at hf
          · exact ⟨hu, hf⟩
      | none =>
        simp only [insert, hw, List.mem_cons, token.injEq, ih]
        constructor
        · rintro (rfl | ⟨hu, hf⟩)
          · exact ⟨.inl rfl, hw⟩
          · exact ⟨.inr hu, hf⟩
        · rintro ⟨rfl | hu, hf⟩
          · exact .inl rfl
          · exact .inr ⟨hu, hf⟩

/-- The tokens without an expression stay in their order. -/
theorem tokens_insert (ps : List Piece) :
    tokens (insert f ps) = (tokens ps).filter fun u => (f u).isNone := by
  induction ps with
  | nil => rfl
  | cons p ps ih =>
    cases p with
    | char c => simpa [insert, tokens] using ih
    | token w => cases hw : f w <;> simp [insert, tokens, tokens_chars_append, hw, ih]

/-- A token without an expression stays as often as it was. -/
theorem count_insert {u : Text} (hu : f u = none) (ps : List Piece) :
    (insert f ps).count (.token u) = ps.count (.token u) := by
  induction ps with
  | nil => rfl
  | cons p ps ih =>
    cases p with
    | char c => simpa [insert, List.count_cons] using ih
    | token w =>
      cases hw : f w with
      | some v =>
        have hne : w ≠ u := by
          rintro rfl
          simp [hw] at hu
        have hchars : (chars v).count (.token u) = 0 := List.count_eq_zero.2 (by simp)
        simp [insert, hw, List.count_append, hchars, hne, ih]
      | none => simp [insert, hw, List.count_cons, ih]

/-- Inserting twice is inserting once, and what was inserted first stays. -/
theorem insert_insert (ps : List Piece) :
    insert g (insert f ps) = insert (fun u => (f u).or (g u)) ps := by
  induction ps with
  | nil => rfl
  | cons p ps ih =>
    cases p with
    | char c => simp [insert, ih]
    | token u => cases hf : f u <;> simp [insert, insert_chars_append, hf, ih]

end Piece

/-! ## Replacing a token in a text -/

section Replace

variable {u v : Text}

theorem replaceFrom_append_length (a r : Text) :
    Text.replaceFrom u v a.length (a ++ r) = Text.replaceFrom u v 0 r := by
  induction a with
  | nil => rfl
  | cons c a ih => simpa [Text.replaceFrom] using ih

theorem isSome_afterLead?_iff {t : Text} : (Text.afterLead? u t).isSome ↔ u <+: t := by
  rw [Option.isSome_iff_exists]
  exact exists_congr fun r => Text.afterLead?_eq_some_iff.trans eq_comm

theorem isSome_afterLead?_eq_false {t : Text} (h : ¬ u <+: t) :
    (Text.afterLead? u t).isSome = false := by
  rwa [Bool.eq_false_iff, ne_eq, isSome_afterLead?_iff]

/-- Replacing passes over a text in which nothing begins that is replaced. -/
theorem replaceFrom_append {a r : Text} (h : ∀ b c, a = b ++ c → c ≠ [] → ¬ u <+: c ++ r) :
    Text.replaceFrom u v 0 (a ++ r) = a ++ Text.replaceFrom u v 0 r := by
  induction a with
  | nil => rfl
  | cons d a ih =>
    have hd : (Text.afterLead? u (d :: (a ++ r))).isSome = false :=
      isSome_afterLead?_eq_false (h [] (d :: a) rfl (by simp))
    have ha : Text.replaceFrom u v 0 (a ++ r) = a ++ Text.replaceFrom u v 0 r :=
      ih fun b c hbc hc => h (d :: b) c (by simp [hbc]) hc
    simp [Text.replaceFrom, hd, ha]

theorem occurrences_append {a r : Text} (h : ∀ b c, a = b ++ c → c ≠ [] → ¬ u <+: c ++ r) :
    Text.occurrences u (a ++ r) = Text.occurrences u r := by
  induction a with
  | nil => rfl
  | cons d a ih =>
    have hd : (Text.afterLead? u (d :: (a ++ r))).isSome = false :=
      isSome_afterLead?_eq_false (h [] (d :: a) rfl (by simp))
    have ha : Text.occurrences u (a ++ r) = Text.occurrences u r :=
      ih fun b c hbc hc => h (d :: b) c (by simp [hbc]) hc
    simp [Text.occurrences, hd, ha]

theorem replaceFrom_eq_textOf (hu : IsToken u) (t : Text) :
    Text.replaceFrom u v 0 t = Piece.textOf (Piece.insert (Piece.only u v) (pieces t)) := by
  induction t using pieces_induction with
  | nil => rfl
  | char c cs h ih =>
    have hc : (Text.afterLead? u (c :: cs)).isSome = false :=
      isSome_afterLead?_eq_false (first?_eq_none_iff.1 h u hu)
    simp [Text.replaceFrom, hc, pieces_cons h, Piece.insert, ih]
  | token w r hw ih =>
    rw [pieces_append hw]
    by_cases hwu : w = u
    · subst hwu
      cases w with
      | nil => exact absurd rfl hu.isEnclosed.ne_nil
      | cons d w =>
        have hd : (Text.afterLead? (d :: w) (d :: (w ++ r))).isSome :=
          isSome_afterLead?_iff.2 ⟨r, rfl⟩
        simp [Text.replaceFrom, hd, replaceFrom_append_length, Piece.insert, Piece.only_self,
          Piece.textOf_chars_append, ih]
    · -- another token is passed over as a whole
      rw [replaceFrom_append fun b c hbc hc => hu.not_prefix_of_ne hw hwu hbc hc]
      simp [Piece.insert, Piece.only_of_ne hwu, ih]

/-- Replacing a token puts the expression in the place of each of its pieces. -/
theorem replaceAll_eq_textOf (hu : IsToken u) (t : Text) :
    Text.replaceAll u v t = Piece.textOf (Piece.insert (Piece.only u v) (pieces t)) := by
  rw [← replaceFrom_eq_textOf hu]
  cases u with
  | nil => exact absurd rfl hu.isEnclosed.ne_nil
  | cons d u => rfl

/-- A token occurs as often as it is among the pieces. -/
theorem occurrences_eq_count (hu : IsToken u) (t : Text) :
    Text.occurrences u t = (pieces t).count (.token u) := by
  induction t using pieces_induction with
  | nil => rfl
  | char c cs h ih =>
    have hc : (Text.afterLead? u (c :: cs)).isSome = false :=
      isSome_afterLead?_eq_false (first?_eq_none_iff.1 h u hu)
    simp [Text.occurrences, hc, pieces_cons h, ih]
  | token w r hw ih =>
    rw [pieces_append hw, List.count_cons]
    by_cases hwu : w = u
    · subst hwu
      cases w with
      | nil => exact absurd rfl hu.isEnclosed.ne_nil
      | cons d w =>
        have hd : (Text.afterLead? (d :: w) (d :: (w ++ r))).isSome :=
          isSome_afterLead?_iff.2 ⟨r, rfl⟩
        -- the only occurrence that begins in `w` begins it
        have hinside : Text.occurrences (d :: w) (w ++ r) = Text.occurrences (d :: w) r :=
          occurrences_append fun b c hbc hc =>
            hw.isEnclosed.not_prefix_inside hu.isEnclosed (a := d :: b) (by simp [hbc]) (by simp) hc
        simp [Text.occurrences, hd, hinside, ih, Nat.add_comm]
    · rw [occurrences_append fun b c hbc hc => hu.not_prefix_of_ne hw hwu hbc hc]
      simp [hwu, ih]

/-- Reading a text anew after a replacement only gathers characters. -/
theorem gathers_replaceAll (hu : IsToken u) (t : Text) :
    Gathers (Piece.insert (Piece.only u v) (pieces t)) (pieces (Text.replaceAll u v t)) := by
  rw [replaceAll_eq_textOf hu]
  exact gathers_pieces fun w hw => isToken_of_mem_pieces (Piece.token_mem_insert.1 hw).1

/-- Replacing a token loses no occurrence of another one, whatever is put in its place. -/
theorem occurrences_le_replaceAll {w : Text} (hu : IsToken u) (hw : IsToken w) (hne : w ≠ u)
    (t : Text) : Text.occurrences w t ≤ Text.occurrences w (Text.replaceAll u v t) := by
  rw [occurrences_eq_count hw, occurrences_eq_count hw,
    ← Piece.count_insert (Piece.only_of_ne hne v) (pieces t)]
  exact (gathers_replaceAll hu t).count_le w

theorem mem_tokens_replaceAll {w t : Text} (hu : IsToken u) (hne : w ≠ u) (hw : w ∈ tokens t) :
    w ∈ tokens (Text.replaceAll u v t) := by
  rw [← token_mem_pieces_iff_mem_tokens, ← List.count_pos_iff] at hw ⊢
  rw [← Piece.count_insert (Piece.only_of_ne hne v) (pieces t)] at hw
  exact Nat.lt_of_lt_of_le hw ((gathers_replaceAll hu t).count_le w)

end Replace

/-! ## Where a new token comes from -/

section Runs

variable {f : Text → Option Text}

/-- A character that no inserted expression holds stands where it stood before. -/
theorem exists_append_of_insert_eq {ps as qs : List Piece} {d : Char}
    (hd : ∀ u v, f u = some v → d ∉ v) (h : Piece.insert f ps = as ++ .char d :: qs) :
    ∃ bs ps', ps = bs ++ .char d :: ps' ∧ Piece.insert f ps' = qs := by
  induction ps generalizing as with
  | nil => simp [Piece.insert] at h
  | cons p ps ih =>
    cases p with
    | char c =>
      cases as with
      | nil =>
        obtain ⟨hc, hqs⟩ := List.cons.inj h
        cases hc
        exact ⟨[], ps, rfl, hqs⟩
      | cons a as =>
        obtain ⟨bs, ps', rfl, hps'⟩ := ih (List.cons.inj h).2
        exact ⟨.char c :: bs, ps', rfl, hps'⟩
    | token u =>
      cases hu : f u with
      | none =>
        simp only [Piece.insert, hu] at h
        cases as with
        | nil => cases (List.cons.inj h).1
        | cons a as =>
          obtain ⟨bs, ps', rfl, hps'⟩ := ih (List.cons.inj h).2
          exact ⟨.token u :: bs, ps', rfl, hps'⟩
      | some v =>
        simp only [Piece.insert, hu] at h
        -- the character stands behind the inserted expression, not in it
        obtain ⟨n, hn⟩ : ∃ n, Piece.insert f ps = n ++ .char d :: qs := by
          rcases List.append_eq_append_iff.1 h with ⟨n, _, hn⟩ | ⟨n, hv, hn⟩
          · exact ⟨n, hn⟩
          · cases n with
            | nil => exact ⟨[], hn.symm⟩
            | cons a n =>
              obtain ⟨rfl, _⟩ := List.cons.inj hn
              have hmem : Piece.char d ∈ Piece.chars v := by rw [hv]; simp
              exact absurd (by simpa [Piece.chars] using hmem) (hd u v hu)
        obtain ⟨bs, ps', rfl, hps'⟩ := ih hn
        exact ⟨.token u :: bs, ps', rfl, hps'⟩

/-- A run of characters that meets the first character of no inserted expression was there before. -/
theorem eq_chars_append_of_insert_eq {m : Text} {ps qs : List Piece}
    (hf : ∀ u v, f u = some v → ∃ x v', v = x :: v' ∧ x ∉ m)
    (h : Piece.insert f ps = Piece.chars m ++ qs) :
    ∃ ps', ps = Piece.chars m ++ ps' ∧ Piece.insert f ps' = qs := by
  induction m generalizing ps with
  | nil => exact ⟨ps, rfl, h⟩
  | cons d m ih =>
    cases ps with
    | nil => simp [Piece.insert] at h
    | cons p ps =>
      cases p with
      | char c =>
        obtain ⟨hc, hm⟩ := List.cons.inj h
        cases hc
        have hf' : ∀ u v, f u = some v → ∃ x v', v = x :: v' ∧ x ∉ m := by
          intro u v hu
          obtain ⟨x, v', rfl, hx⟩ := hf u v hu
          exact ⟨x, v', rfl, fun hm => hx (List.mem_cons_of_mem _ hm)⟩
        obtain ⟨ps', rfl, hps'⟩ := ih hf' hm
        exact ⟨ps', rfl, hps'⟩
      | token u =>
        cases hu : f u with
        | none =>
          simp only [Piece.insert, hu] at h
          cases (List.cons.inj h).1
        | some v =>
          obtain ⟨x, v', rfl, hx⟩ := hf u v hu
          simp only [Piece.insert, hu] at h
          cases (List.cons.inj h).1
          exact absurd List.mem_cons_self hx

/-- A token that arises when expressions without a dollar are inserted, all of which begin with the
same character, shows that character. -/
theorem head_mem_of_run {t w : Text} {as bs : List Piece} {x : Char}
    (hf : ∀ u v, f u = some v → '$' ∉ v ∧ v.head? = some x) (hw : IsToken w)
    (h : Piece.insert f (pieces t) = as ++ Piece.chars w ++ bs) : x ∈ w := by
  by_contra hx
  -- the dollar of the run was there before, and so was all that follows it
  obtain ⟨m, hm⟩ := hw.isEnclosed.opening_prefix
  obtain rfl : w = '$' :: '\x7b' :: m := hm.symm
  obtain ⟨cs, ps, hps, hins⟩ := exists_append_of_insert_eq (fun u v hu => (hf u v hu).1)
    (h.trans (List.append_assoc ..))
  have hhead : ∀ u v, f u = some v → ∃ y v', v = y :: v' ∧ y ∉ '\x7b' :: m := by
    intro u v hu
    obtain ⟨v', rfl⟩ := List.head?_eq_some_iff.1 (hf u v hu).2
    exact ⟨x, v', rfl, fun hm => hx (List.mem_cons_of_mem _ hm)⟩
  obtain ⟨ps', rfl, _⟩ := eq_chars_append_of_insert_eq hhead hins
  have hrun : pieces t = cs ++ Piece.chars ('$' :: '\x7b' :: m) ++ ps' := by simpa using hps
  exact not_isToken_of_run hrun hw

/-! ## Flat texts -/

/-- A text is flat if behind each opening the next brace, if there is one, closes. -/
def IsFlat (t : Text) : Prop :=
  ∀ before rest, t = before ++ opening ++ rest →
    rest.find? (fun c => !isArgumentChar c) ≠ some '\x7b'

/-- A character that is neither a dollar nor a brace. -/
def IsPlainChar (c : Char) : Prop := c ≠ '$' ∧ c ≠ '\x7b' ∧ c ≠ '\x7d'

instance : DecidablePred IsPlainChar := fun _ => inferInstanceAs (Decidable (_ ∧ _))

/-- An expression is plain if it is not empty and holds neither a dollar nor a brace. -/
def IsPlain (v : Text) : Prop := v ≠ [] ∧ ∀ c ∈ v, IsPlainChar c

theorem isPlain_iff_all {v : Text} : IsPlain v ↔ v ≠ [] ∧ v.all (IsPlainChar ·) := by
  simp [IsPlain]

instance : DecidablePred IsFlat := fun t =>
  decidable_of_iff (∀ s ∈ t.tails, ∀ rest ∈ Text.afterLead? opening s,
    rest.find? (fun c => !isArgumentChar c) ≠ some '\x7b') <| by
    simp only [List.mem_tails, Option.mem_def, Text.afterLead?_eq_some_iff]
    constructor
    · intro h before rest hrest
      exact h (opening ++ rest) ⟨before, by simp [hrest]⟩ rest rfl
    · rintro h _ ⟨before, rfl⟩ rest rfl
      exact h before rest (by simp)

instance : DecidablePred IsPlain := fun _ => decidable_of_iff _ isPlain_iff_all.symm

theorem IsPlain.exists_cons {v : Text} (h : IsPlain v) :
    ∃ x v', v = x :: v' ∧ x ≠ '$' ∧ x ≠ '\x7b' ∧ x ≠ '\x7d' := by
  cases v with
  | nil => exact absurd rfl h.1
  | cons x v => exact ⟨x, v, rfl, h.2 x List.mem_cons_self⟩

/-- In a flat text the end of a new token was there before: a token that was replaced there would
show its opening brace. -/
theorem eq_chars_append_of_flat {m : Text} {ps qs : List Piece}
    (hf : ∀ u v, f u = some v → IsPlain v) (hps : ∀ u, .token u ∈ ps → IsToken u)
    (hm : ∀ c ∈ m, isArgumentChar c)
    (hflat : (Piece.textOf ps).find? (fun c => !isArgumentChar c) ≠ some '\x7b')
    (h : Piece.insert f ps = Piece.chars (m ++ [closing]) ++ qs) :
    ∃ ps', ps = Piece.chars (m ++ [closing]) ++ ps' := by
  induction m generalizing ps with
  | nil =>
    obtain ⟨ps', rfl, _⟩ := eq_chars_append_of_insert_eq (m := [closing]) (fun u v hu => by
      obtain ⟨x, v', rfl, _, _, hx⟩ := (hf u v hu).exists_cons
      exact ⟨x, v', rfl, by simpa [closing] using hx⟩) h
    exact ⟨ps', rfl⟩
  | cons d m ih =>
    cases ps with
    | nil => simp [Piece.insert] at h
    | cons p ps =>
      cases p with
      | char c =>
        obtain ⟨hc, hins⟩ := List.cons.inj h
        cases hc
        have hd : isArgumentChar d := hm d List.mem_cons_self
        obtain ⟨ps', rfl⟩ := ih (fun u hu => hps u (List.mem_cons_of_mem _ hu))
          (fun c hc => hm c (List.mem_cons_of_mem _ hc)) (by simpa [hd] using hflat) hins
        exact ⟨ps', rfl⟩
      | token u =>
        -- the brace of this token would be the next one behind the opening
        obtain ⟨inner, _, rfl⟩ := (hps u List.mem_cons_self).isEnclosed
        exact absurd (by simp [opening, isArgumentChar]) hflat

/-- When plain expressions are inserted into a flat text, no token arises. -/
theorem pieces_insert {t : Text} (ht : IsFlat t) (hf : ∀ u v, f u = some v → IsPlain v) :
    pieces (Piece.textOf (Piece.insert f (pieces t))) = Piece.insert f (pieces t) := by
  refine (gathers_pieces fun w hw =>
    isToken_of_mem_pieces (Piece.token_mem_insert.1 hw).1).eq_of_no_run fun as w bs h hw => ?_
  obtain ⟨m, hm, rfl⟩ := hw.isEnclosed
  have hrun : Piece.insert f (pieces t)
      = as ++ .char '$' :: (Piece.chars ['\x7b'] ++ (Piece.chars (m ++ [closing]) ++ bs)) := by
    simpa [opening, Piece.chars] using h
  obtain ⟨cs, ps, hps, hins⟩ :=
    exists_append_of_insert_eq (fun u v hu hd => ((hf u v hu).2 _ hd).1 rfl) hrun
  obtain ⟨ps', rfl, hins'⟩ := eq_chars_append_of_insert_eq (fun u v hu => by
    obtain ⟨x, v', rfl, _, hx, _⟩ := (hf u v hu).exists_cons
    exact ⟨x, v', rfl, by simpa using hx⟩) hins
  -- the opening of the run is one of `t`, and what follows it there has no opening brace
  have htext : t = Piece.textOf cs ++ opening ++ Piece.textOf ps' := by
    have := congrArg Piece.textOf hps
    rw [textOf_pieces, Piece.textOf_append] at this
    simpa [Piece.textOf_chars_append, opening] using this
  have hmem : ∀ u, .token u ∈ ps' → IsToken u := fun u hu =>
    isToken_of_mem_pieces (by rw [hps]; simp [hu])
  obtain ⟨ps'', rfl⟩ := eq_chars_append_of_flat hf hmem hm (ht _ _ htext) hins'
  have hbefore : pieces t = cs ++ Piece.chars (opening ++ m ++ [closing]) ++ ps'' := by
    simpa [opening, Piece.chars] using hps
  exact not_isToken_of_run hbefore hw

end Runs

end Token
end ExprMigration
