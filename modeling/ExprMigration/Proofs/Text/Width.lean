import ExprMigration.Text.Width
import Mathlib.Data.List.Basic

/-!
# Display widths

A text is measured from its end, and a character may take back a column of the sequence behind it that it
completes.  It never takes back more than is there (`owed_le_measure`), so that no text has a negative
width.  A blank and the characters of box lines take one column and belong to no sequence
(`widthBefore_of_frame`): the width of a text with such a character in it is that of what stands in front
of it, that of what stands behind it, and one column (`isAdditive_width`).
-/

namespace ExprMigration
namespace Text

variable {c : Char} {a b t : Text}

/-! ## Columns that may be taken back -/

/-- The columns of a sequence that a character in front of it may take back. -/
def Following.owed : Following → Int
  | .coengLetter | .tifinaghJoiner | .joinedFlagLetter | .joinedFlagOdd => 1
  | _ => 0

theorem owed_nonneg (following : Following) : 0 ≤ following.owed := by
  cases following <;> simp [Following.owed]

theorem owed_joined (following : Following) : following.joined.owed = following.owed := by
  cases following <;> rfl

theorem owed_withEmojiStyle_le (behind : Behind) :
    behind.withEmojiStyle.following.owed ≤ behind.following.owed := by
  unfold Behind.withEmojiStyle
  split
  · exact Int.le_refl _
  · exact owed_nonneg _

theorem owed_withTextStyle_le (behind : Behind) :
    behind.withTextStyle.following.owed ≤ behind.following.owed := by
  unfold Behind.withTextStyle
  split
  · exact Int.le_refl _
  · exact owed_nonneg _

theorem owed_withoutEmojiStyle_le (behind : Behind) :
    behind.withoutEmojiStyle.following.owed ≤ behind.following.owed := by
  unfold Behind.withoutEmojiStyle
  split
  · exact Int.le_refl _
  · split
    · exact Int.le_refl _
    · exact owed_nonneg _

theorem owed_withoutTextStyle_le (behind : Behind) :
    behind.withoutTextStyle.following.owed ≤ behind.following.owed := by
  unfold Behind.withoutTextStyle
  split
  · exact Int.le_refl _
  · split
    · exact Int.le_refl _
    · exact owed_nonneg _

theorem forall_mem_ite {α : Type} {p : Prop} [Decidable p] {P : α → Prop} {x : α} {o : Option α}
    (hx : P x) (ho : ∀ y ∈ o, P y) : ∀ y ∈ (if p then some x else o), P y := by
  split
  · simpa using hx
  · exact ho

/-- A character that joins a sequence takes back what is owed, or leaves it or more in it. -/
theorem owed_of_mem_joins? (c : Char) (following : Following) :
    ∀ joined ∈ joins? c following, joined.2.owed ≤ following.owed + joined.1 := by
  unfold joins?
  split
  all_goals repeat' apply forall_mem_ite
  all_goals first | exact Int.le_refl _ | decide | simp [Following.owed]

/-- A letter that becomes a subscript takes a column by itself. -/
theorem one_le_charWidth (h : 0x1780 ≤ c.toNat ∧ c.toNat ≤ 0x17AF) : 1 ≤ charWidth c := by
  have hletters : ∀ n < 0x30, 1 ≤ charWidth (Char.ofNat (0x1780 + n)) := by decide +kernel
  have hc := hletters (c.toNat - 0x1780) (by omega)
  rwa [Nat.add_sub_cancel' h.1, Char.ofNat_toNat] at hc

/-- The columns of a character cover what a sequence owes. -/
def Following.CoveredBy (c : Char) (following : Following) : Prop := following.owed ≤ charWidth c

theorem coveredBy_of_owed {following : Following} (h : following.owed = 0) (c : Char) :
    following.CoveredBy c := by
  rw [Following.CoveredBy, h]
  exact Int.natCast_nonneg _

theorem ite_of {α : Type} {p : Prop} [Decidable p] {P : α → Prop} {x y : α} (hx : p → P x)
    (hy : P y) : P (if p then x else y) := by
  split
  · exact hx ‹p›
  · exact hy

/-- Of single characters only the letters that become subscripts owe a column. -/
theorem coveredBy_ofChar (c : Char) : (Following.ofChar c).CoveredBy c := by
  unfold Following.ofChar
  refine ite_of (fun _ => coveredBy_of_owed rfl c) ?_
  refine ite_of (fun _ => coveredBy_of_owed rfl c) ?_
  refine ite_of (fun hletter => ?_) ?_
  · simp only [between, Bool.or_eq_true, Bool.and_eq_true, decide_eq_true_eq,
      List.contains_eq_mem, List.mem_cons, List.not_mem_nil, or_false] at hletter
    exact Int.ofNat_le.2 (one_le_charWidth (by omega))
  · repeat refine ite_of (fun _ => coveredBy_of_owed rfl c) ?_
    exact coveredBy_of_owed rfl c

/-- One character more in front takes back no more than is owed. -/
theorem owed_widthBefore_le (c : Char) (behind : Behind) :
    (widthBefore c behind).2.following.owed ≤ behind.following.owed + (widthBefore c behind).1 := by
  have hbehind := owed_nonneg behind.following
  have hemoji := owed_withoutEmojiStyle_le behind
  unfold widthBefore
  split
  · show (0 : Int) ≤ behind.following.owed + if behind.following.isJoinedEmoji then 0 else 2
    split <;> omega
  dsimp only
  generalize behind.withoutEmojiStyle = bare at hemoji ⊢
  split
  · -- a control character or one of the first two blocks
    split
    · show (0 : Int) ≤ behind.following.owed + 1
      omega
    · split
      · show (0 : Int) ≤ behind.following.owed + 0
        omega
      · show (0 : Int) ≤ behind.following.owed + 1
        omega
  split
  · have hstyle := owed_withEmojiStyle_le bare
    dsimp only
    omega
  split
  · have hstyle := owed_withTextStyle_le bare
    dsimp only
    omega
  split
  · show (0 : Int) ≤ behind.following.owed + 1
    omega
  have htext := owed_withoutTextStyle_le bare
  generalize bare.withoutTextStyle.following = following at htext ⊢
  split
  · simp only [Behind.plain, owed_joined]
    omega
  split
  · simp only [Behind.plain]
    omega
  split
  · rename_i columns after hjoins
    have hjoined : after.owed ≤ following.owed + columns := owed_of_mem_joins? c following _ hjoins
    simp only [Behind.plain]
    omega
  · have hfollowing := owed_nonneg following
    have hcovered : (Following.ofChar c).owed ≤ charWidth c := coveredBy_ofChar c
    simp only [Behind.plain]
    omega

/-- What may be taken back of a text is there. -/
theorem owed_le_measure (t : Text) : (measure t).2.following.owed ≤ (measure t).1 := by
  induction t with
  | nil => decide
  | cons c rest ih =>
    have hstep := owed_widthBefore_le c (measure rest).2
    simp only [measure]
    omega

theorem measure_nonneg (t : Text) : 0 ≤ (measure t).1 :=
  Int.le_trans (owed_nonneg _) (owed_le_measure t)

/-! ## Characters that belong to no sequence -/

/-- The blank, and the characters of box lines. -/
def frame : Text := " ─│┌┐└┘├┤┬┴┼".toList

theorem frame_apart : ∀ c ∈ frame, (c.toNat = 0x20 ∨ 0x2500 ≤ c.toNat ∧ c.toNat ≤ 0x257F) ∧
    isJoiningTransparent c = false ∧ modifierBaseRanges.holds c = false ∧
    Following.ofChar c = .nothing ∧ charWidth c = 1 ∧ hasStyles c = false ∧
    hasNarrowStyle c = false ∧ isLigatureMark c = false := by
  -- as a conjunction over the list, since deciding a statement on all characters goes through all of them
  refine List.forall_iff_forall_mem.1 ?_
  decide +kernel

theorem ite_eq_none {α : Type} {p : Prop} [Decidable p] {x : α} {o : Option α} (hp : ¬ p)
    (ho : o = none) : (if p then some x else o) = none := by
  rw [if_neg hp, ho]

theorem joins?_of_frame (h : c ∈ frame) (following : Following) : joins? c following = none := by
  obtain ⟨hrange, htransparent, hbase, hchar, -, -, -, -⟩ := frame_apart c h
  unfold joins?
  split
  -- each test asks for code points, or for a class of which the character is no member
  all_goals repeat' apply ite_eq_none
  all_goals first
    | rfl
    | omega
    | (simp [htransparent, hbase, hchar]; done)
    | (simp [between]; omega)

/-- Such a character takes one column, whatever comes behind it, and is nothing to what comes before. -/
theorem widthBefore_of_frame (h : c ∈ frame) (behind : Behind) :
    widthBefore c behind = (1, .nothing) := by
  obtain ⟨-, -, -, hchar, hwidth, hstyles, hnarrow, hmark⟩ := frame_apart c h
  have hother : c ≠ '\n' ∧ c ≠ '\r' ∧ c ≠ '\uFE0F' ∧ c ≠ '\uFE0E' ∧ c ≠ '\u200D' := by
    refine ⟨?_, ?_, ?_, ?_, ?_⟩ <;> rintro rfl <;> revert h <;> decide
  simp [widthBefore, joins?_of_frame h, hchar, hwidth, hstyles, hnarrow, hmark, hother,
    Behind.nothing]

theorem measure_append_frame (h : c ∈ frame) (a b : Text) :
    measure (a ++ c :: b) = ((measure a).1 + 1 + (measure b).1, (measure a).2) := by
  induction a with
  | nil => simp [measure, widthBefore_of_frame h, Int.add_comm]
  | cons d a ih =>
    simp only [List.cons_append, measure, ih]
    congr 1
    omega

/-! ## Additive widths -/

/-- A way to measure texts is additive at blanks and box lines if each of these characters takes one
column and keeps what stands in front of it from what stands behind it. -/
structure IsAdditive (measure : Text → Nat) : Prop where
  frame : ∀ c ∈ frame, measure [c] = 1
  append : ∀ a b, ∀ c ∈ Text.frame, measure (a ++ c :: b) = measure a + measure [c] + measure b

theorem width_append_frame (h : c ∈ frame) (a b : Text) :
    width (a ++ c :: b) = width a + 1 + width b := by
  have ha := measure_nonneg a
  have hb := measure_nonneg b
  simp only [width, measure_append_frame h]
  omega

/-- The display width is additive. -/
theorem isAdditive_width : IsAdditive width := by
  have hframe : ∀ c ∈ frame, width [c] = 1 := by
    intro c hc
    simpa [width, measure] using width_append_frame hc [] []
  exact ⟨hframe, fun a b c hc => by rw [width_append_frame hc, hframe c hc]⟩

end Text
end ExprMigration
