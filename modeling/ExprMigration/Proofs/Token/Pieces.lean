import ExprMigration.Proofs.Token.Language

/-!
# The pieces of a text

Read from left to right, a text falls into tokens and characters outside all tokens: its *pieces*.
Since no token begins inside another one, the pieces hold every occurrence of every token, whatever
language it belongs to (`token_mem_pieces_iff`), and both scans of `tokens` are selections from them
(`scanFrom_eq_filter`).

A text that is given by pieces of another origin, as after a substitution, is read anew by gathering
runs of its characters into tokens; the tokens that were given stay (`gathers_pieces`).
-/

namespace ExprMigration
namespace Token

/-! ## Pieces and their text -/

/-- A part of a text: a token, or a character outside all tokens. -/
inductive Piece where
  | char (c : Char)
  | token (token : Text)
deriving Repr, DecidableEq

namespace Piece

/-- The text of some pieces, with `f token` in the place of each token. -/
def write (f : Text → Text) : List Piece → Text
  | [] => []
  | .char c :: ps => c :: write f ps
  | .token u :: ps => f u ++ write f ps

/-- The text of some pieces. -/
def textOf (ps : List Piece) : Text := write id ps

/-- A text as pieces without a token. -/
def chars (t : Text) : List Piece := t.map .char

/-- The tokens among some pieces. -/
def tokens : List Piece → List Text
  | [] => []
  | .char _ :: ps => tokens ps
  | .token u :: ps => u :: tokens ps

@[simp] theorem textOf_nil : textOf [] = [] := rfl

@[simp] theorem textOf_char (c : Char) (ps : List Piece) :
    textOf (.char c :: ps) = c :: textOf ps := rfl

@[simp] theorem textOf_token (u : Text) (ps : List Piece) :
    textOf (.token u :: ps) = u ++ textOf ps := rfl

@[simp] theorem chars_cons (c : Char) (t : Text) : chars (c :: t) = .char c :: chars t := rfl

@[simp] theorem token_notMem_chars (u t : Text) : Piece.token u ∉ chars t := by
  simp [chars]

theorem write_append (f : Text → Text) (ps qs : List Piece) :
    write f (ps ++ qs) = write f ps ++ write f qs := by
  induction ps with
  | nil => rfl
  | cons p ps ih => cases p <;> simp [write, ih]

@[simp] theorem write_chars (f : Text → Text) (t : Text) : write f (chars t) = t := by
  induction t with
  | nil => rfl
  | cons c cs ih => simp [write, ih]

theorem textOf_append (ps qs : List Piece) : textOf (ps ++ qs) = textOf ps ++ textOf qs :=
  write_append id ps qs

theorem textOf_chars_append (t : Text) (ps : List Piece) :
    textOf (chars t ++ ps) = t ++ textOf ps := by
  rw [textOf_append, textOf, write_chars]

theorem mem_tokens {u : Text} {ps : List Piece} : u ∈ tokens ps ↔ .token u ∈ ps := by
  induction ps with
  | nil => simp [tokens]
  | cons p ps ih => cases p <;> simp [tokens, ih]

theorem tokens_chars_append (t : Text) (ps : List Piece) :
    tokens (chars t ++ ps) = tokens ps := by
  induction t with
  | nil => rfl
  | cons c cs ih => exact ih

/-- What is written depends on `f` only at the tokens that are there. -/
theorem write_congr {f g : Text → Text} {ps : List Piece} (h : ∀ u, .token u ∈ ps → f u = g u) :
    write f ps = write g ps := by
  induction ps with
  | nil => rfl
  | cons p ps ih =>
    have hps : write f ps = write g ps := ih fun u hu => h u (List.mem_cons_of_mem _ hu)
    cases p with
    | char c => simp [write, hps]
    | token u => simp [write, hps, h u List.mem_cons_self]

end Piece

/-! ## Reading a text -/

/-- The pieces of a text without its first `skip` characters. -/
def piecesFrom : Nat → Text → List Piece
  | _, [] => []
  | skip + 1, _ :: cs => piecesFrom skip cs
  | 0, c :: cs =>
    match first? (c :: cs) with
    | some token => .token token :: piecesFrom (token.length - 1) cs
    | none => .char c :: piecesFrom 0 cs

/-- The pieces of a text, read from left to right. -/
def pieces (t : Text) : List Piece := piecesFrom 0 t

@[simp] theorem pieces_nil : pieces [] = [] := rfl

theorem piecesFrom_append (a r : Text) : piecesFrom a.length (a ++ r) = pieces r := by
  induction a with
  | nil => rfl
  | cons c a ih => simpa [piecesFrom] using ih

theorem pieces_cons {c : Char} {cs : Text} (h : first? (c :: cs) = none) :
    pieces (c :: cs) = .char c :: pieces cs := by
  simp [pieces, piecesFrom, h]

theorem pieces_append {u : Text} (h : IsToken u) (r : Text) :
    pieces (u ++ r) = .token u :: pieces r := by
  cases u with
  | nil => exact absurd rfl h.isEnclosed.ne_nil
  | cons c u =>
    have hfirst : first? (c :: (u ++ r)) = some (c :: u) := first?_append h r
    simp [pieces, piecesFrom, hfirst, piecesFrom_append]

/-- Induction along the pieces of a text. -/
@[elab_as_elim]
theorem pieces_induction {motive : Text → Prop} (t : Text) (nil : motive [])
    (char : ∀ c cs, first? (c :: cs) = none → motive cs → motive (c :: cs))
    (token : ∀ u r, IsToken u → motive r → motive (u ++ r)) : motive t := by
  induction hn : t.length using Nat.strong_induction_on generalizing t with
  | _ n ih =>
    subst hn
    cases t with
    | nil => exact nil
    | cons c cs =>
      rcases hfirst : first? (c :: cs) with _ | u
      · exact char c cs hfirst (ih _ (by simp) cs rfl)
      · obtain ⟨hu, r, hr⟩ := first?_eq_some_iff.1 hfirst
        have hlen : r.length < (c :: cs).length := by
          have := List.length_pos_iff.2 hu.isEnclosed.ne_nil
          rw [← hr, List.length_append]
          omega
        rw [← hr]
        exact token u r hu (ih _ hlen r rfl)

/-- The pieces of a text make up the text. -/
@[simp] theorem textOf_pieces (t : Text) : Piece.textOf (pieces t) = t := by
  induction t using pieces_induction with
  | nil => rfl
  | char c cs h ih => simp [pieces_cons h, ih]
  | token u r h ih => simp [pieces_append h, ih]

theorem isToken_of_mem_pieces {t u : Text} (h : .token u ∈ pieces t) : IsToken u := by
  induction t using pieces_induction with
  | nil => simp at h
  | char c cs hc ih => exact ih (by simpa [pieces_cons hc] using h)
  | token w r hw ih =>
    rw [pieces_append hw] at h
    rcases List.mem_cons.1 h with h | h
    · cases h
      exact hw
    · exact ih h

/-! ## Every occurrence is a piece -/

/-- A token that occurs behind the beginning of another one occurs behind its end. -/
theorem infix_of_infix_append {u w r : Text} (hu : IsToken u) (hw : IsToken w)
    (h : u <:+: w ++ r) : u = w ∨ u <:+: r := by
  obtain ⟨a, b, hab⟩ := h
  rw [List.append_assoc] at hab
  rcases List.append_eq_append_iff.1 hab with ⟨n, hn, hub⟩ | ⟨n, rfl, hr⟩
  · -- `u` begins inside `w`, so it begins where `w` begins or behind its end
    by_cases hn0 : n = []
    · subst hn0
      exact .inr ⟨[], b, by simpa using hub⟩
    by_cases ha : a = []
    · subst ha
      obtain rfl : w = n := by simpa using hn
      exact .inl (hu.isEnclosed.append_inj hw.isEnclosed hub).1
    · exact absurd ⟨b, hub⟩ (hw.isEnclosed.not_prefix_inside hu.isEnclosed hn ha hn0)
  · exact .inr ⟨n, b, by rw [hr, List.append_assoc]⟩

/-- The tokens among the pieces of a text are all tokens that occur in it. -/
theorem token_mem_pieces_iff {t u : Text} : .token u ∈ pieces t ↔ IsToken u ∧ u <:+: t := by
  induction t using pieces_induction with
  | nil =>
    simp only [pieces_nil, List.not_mem_nil, List.infix_nil, false_iff, not_and]
    exact fun hu => hu.isEnclosed.ne_nil
  | char c cs h ih =>
    rw [pieces_cons h, List.infix_cons_iff]
    simp only [List.mem_cons, reduceCtorEq, false_or, ih]
    constructor
    · rintro ⟨hu, hcs⟩
      exact ⟨hu, .inr hcs⟩
    · rintro ⟨hu, hp | hcs⟩
      · exact absurd hp (first?_eq_none_iff.1 h u hu)
      · exact ⟨hu, hcs⟩
  | token w r h ih =>
    rw [pieces_append h]
    simp only [List.mem_cons, Piece.token.injEq, ih]
    constructor
    · rintro (rfl | ⟨hu, hr⟩)
      · exact ⟨h, ⟨[], r, rfl⟩⟩
      · exact ⟨hu, hr.trans (List.suffix_append w r).isInfix⟩
    · rintro ⟨hu, hwr⟩
      rcases infix_of_infix_append hu h hwr with rfl | hr
      · exact .inl rfl
      · exact .inr ⟨hu, hr⟩

/-! ## Scans are selections from the pieces -/

section Scan

variable {read? : Text → Option Text}

theorem scanFrom_append_length (a r : Text) :
    scanFrom read? a.length (a ++ r) = scanFrom read? 0 r := by
  induction a with
  | nil => rfl
  | cons c a ih => simpa [scanFrom] using ih

/-- A scan passes over a text in which nothing is recognised. -/
theorem scanFrom_append {a r : Text} (h : ∀ b c, a = b ++ c → c ≠ [] → read? (c ++ r) = none) :
    scanFrom read? 0 (a ++ r) = scanFrom read? 0 r := by
  induction a with
  | nil => rfl
  | cons d a ih =>
    have hd : read? (d :: (a ++ r)) = none := h [] (d :: a) rfl (by simp)
    have ha : scanFrom read? 0 (a ++ r) = scanFrom read? 0 r :=
      ih fun b c hbc hc => h (d :: b) c (by simp [hbc]) hc
    simp [scanFrom, hd, ha]

/-- The scan for a language of tokens finds those among the pieces that belong to it. -/
theorem scanFrom_eq_filter {L : Text → Prop} [DecidablePred L]
    (hread : ∀ t u, read? t = some u ↔ L u ∧ u <+: t) (hL : ∀ u, L u → IsToken u) (t : Text) :
    scanFrom read? 0 t = (Piece.tokens (pieces t)).filter (L ·) := by
  have hnone {t : Text} (h : ∀ u, L u → ¬ u <+: t) : read? t = none := by
    rw [Option.eq_none_iff_forall_ne_some]
    intro u hu
    obtain ⟨hLu, hp⟩ := (hread t u).1 hu
    exact h u hLu hp
  induction t using pieces_induction with
  | nil => rfl
  | char c cs h ih =>
    have hc : read? (c :: cs) = none :=
      hnone fun u hu => first?_eq_none_iff.1 h u (hL u hu)
    simpa [scanFrom, hc, pieces_cons h, Piece.tokens] using ih
  | token w r h ih =>
    rw [pieces_append h, Piece.tokens, List.filter_cons, ← ih]
    by_cases hw : L w
    · simp only [hw, decide_true, if_true]
      cases w with
      | nil => exact absurd rfl h.isEnclosed.ne_nil
      | cons c w =>
        have hc : read? (c :: (w ++ r)) = some (c :: w) := (hread _ _).2 ⟨hw, r, rfl⟩
        simp [scanFrom, hc, scanFrom_append_length]
    · simp only [hw, decide_false, Bool.false_eq_true, if_false]
      refine scanFrom_append fun b c hbc hc => hnone fun u hu => ?_
      refine (hL u hu).not_prefix_of_ne h ?_ hbc hc
      rintro rfl
      exact hw hu

end Scan

/-- Extraction is sound and complete: the tokens of a text are the tokens that occur in it. -/
theorem mem_tokens_iff {t u : Text} : u ∈ tokens t ↔ IsToken u ∧ u <:+: t := by
  rw [tokens, List.mem_eraseDups, List.mem_append,
    scanFrom_eq_filter (fun _ _ => generic?_eq_some_iff) fun _ => .inl,
    scanFrom_eq_filter (fun _ _ => secret?_eq_some_iff) fun _ => .inr]
  simp only [List.mem_filter, Piece.mem_tokens, decide_eq_true_eq, ← and_or_left,
    token_mem_pieces_iff]
  exact ⟨fun h => h.1, fun h => ⟨h, h.1⟩⟩

theorem token_mem_pieces_iff_mem_tokens {t u : Text} : .token u ∈ pieces t ↔ u ∈ tokens t := by
  rw [token_mem_pieces_iff, mem_tokens_iff]

theorem isToken_of_mem_tokens {t u : Text} (h : u ∈ tokens t) : IsToken u := (mem_tokens_iff.1 h).1

theorem nodup_eraseDups {α : Type} [BEq α] [LawfulBEq α] (l : List α) : l.eraseDups.Nodup := by
  induction hn : l.length using Nat.strong_induction_on generalizing l with
  | _ n ih =>
    subst hn
    cases l with
    | nil => simp
    | cons a l =>
      rw [List.eraseDups_cons, List.nodup_cons]
      refine ⟨by simp [List.mem_eraseDups], ih _ ?_ _ rfl⟩
      exact Nat.lt_succ_of_le (List.length_filter_le _ l)

theorem nodup_tokens (t : Text) : (tokens t).Nodup := nodup_eraseDups _

end Token
end ExprMigration
