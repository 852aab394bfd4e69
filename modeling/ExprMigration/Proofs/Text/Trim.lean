import ExprMigration.Text.Blank
import Mathlib.Data.List.TakeWhile

/-!
# Trimmed texts

Blanks around a text do not count (`Text.trim_append_blanks`), and a text that begins and ends with
other characters is trimmed already (`Text.trim_eq_self`).  What stands between two parts that are not
blank stays in its place when the whole is trimmed (`Text.trim_between`).
-/

namespace ExprMigration
namespace Text

variable {a b t before after : Text}

/-- Whether there is anything but blanks in a text. -/
def HasInk (t : Text) : Prop := ∃ c ∈ t, isBlank c = false

theorem not_hasInk_iff : ¬ HasInk t ↔ ∀ c ∈ t, isBlank c := by
  simp [HasInk]

theorem hasInk_reverse : HasInk t.reverse ↔ HasInk t := by
  simp [HasInk]

theorem isBlank_of_printable {c : Char} (h : 0x21 ≤ c.toNat ∧ c.toNat ≤ 0x7E) :
    isBlank c = false := by
  simp only [isBlank, CodeRanges.holds, blankRanges, List.any_cons, List.any_nil, Bool.or_false,
    Bool.or_eq_false_iff, Bool.and_eq_false_iff, decide_eq_false_iff_not]
  omega

/-! ## One end -/

theorem trimStart_ne_nil_iff : trimStart t ≠ [] ↔ HasInk t := by
  simp [trimStart, HasInk]

theorem trimStart_append_of_blank (h : ∀ c ∈ before, isBlank c) (t : Text) :
    trimStart (before ++ t) = trimStart t :=
  List.dropWhile_append_of_pos h

theorem trimStart_append_of_hasInk (h : HasInk t) (after : Text) :
    trimStart (t ++ after) = trimStart t ++ after := by
  have hne : trimStart t ≠ [] := trimStart_ne_nil_iff.2 h
  rw [trimStart] at hne ⊢
  rw [List.dropWhile_append, if_neg (by simpa using hne), trimStart]

theorem trimEnd_eq (t : Text) : trimEnd t = (trimStart t.reverse).reverse := rfl

theorem trimEnd_append_of_blank (h : ∀ c ∈ after, isBlank c) (t : Text) :
    trimEnd (t ++ after) = trimEnd t := by
  rw [trimEnd_eq, List.reverse_append, trimStart_append_of_blank (by simpa using h), trimEnd_eq]

theorem trimEnd_append_of_hasInk (h : HasInk t) (before : Text) :
    trimEnd (before ++ t) = before ++ trimEnd t := by
  rw [trimEnd_eq, List.reverse_append, trimStart_append_of_hasInk (hasInk_reverse.2 h), trimEnd_eq,
    List.reverse_append, List.reverse_reverse]

/-! ## Both ends -/

theorem trim_append_blanks (hbefore : ∀ c ∈ before, isBlank c) (hafter : ∀ c ∈ after, isBlank c) :
    trim (before ++ t ++ after) = trim t := by
  rw [trim, List.append_assoc, trimStart_append_of_blank hbefore, trim]
  by_cases hink : HasInk t
  · rw [trimStart_append_of_hasInk hink, trimEnd_append_of_blank hafter]
  · -- there are blanks only, on the left and on the right
    have hblank (s : Text) (hs : ∀ c ∈ s, isBlank c) : trimStart s = [] := by
      simpa using not_congr trimStart_ne_nil_iff |>.2 (not_hasInk_iff.2 hs)
    have ht := not_hasInk_iff.1 hink
    rw [hblank t ht, trimStart_append_of_blank ht, hblank after hafter]

theorem trim_between (ha : HasInk a) (hb : HasInk b) (t : Text) :
    trim (a ++ t ++ b) = trimStart a ++ t ++ trimEnd b := by
  rw [trim, List.append_assoc, trimStart_append_of_hasInk ha, ← List.append_assoc,
    trimEnd_append_of_hasInk hb]

theorem trim_eq_self {c d : Char} (hc : isBlank c = false) (hd : isBlank d = false)
    (hhead : t.head? = some c) (hlast : t.getLast? = some d) : trim t = t := by
  have hstart : trimStart t = t := by
    obtain ⟨rest, rfl⟩ := List.head?_eq_some_iff.1 hhead
    simp [trimStart, hc]
  obtain ⟨front, rfl⟩ := List.getLast?_eq_some_iff.1 hlast
  rw [trim, hstart]
  simp [trimEnd, hd]

/-! ## What is left -/

theorem isBlank_of_head?_trimStart {c : Char} (h : (trimStart t).head? = some c) :
    isBlank c = false := by
  have hhead := List.head?_dropWhile_not isBlank t
  rw [← trimStart, h] at hhead
  exact hhead

theorem exists_append_trimStart (t : Text) : ∃ before, (∀ c ∈ before, isBlank c) ∧
    t = before ++ trimStart t :=
  ⟨t.takeWhile isBlank, fun _ => List.mem_takeWhile_imp, List.takeWhile_append_dropWhile.symm⟩

theorem exists_trimEnd_append (t : Text) : ∃ after, (∀ c ∈ after, isBlank c) ∧
    t = trimEnd t ++ after := by
  obtain ⟨after, hafter, ht⟩ := exists_append_trimStart t.reverse
  refine ⟨after.reverse, by simpa using hafter, ?_⟩
  rw [trimEnd_eq, ← List.reverse_append, ← ht, List.reverse_reverse]

/-- A text is what trimming leaves of it between blanks. -/
theorem exists_append_trim_append (t : Text) : ∃ before after, (∀ c ∈ before, isBlank c) ∧
    (∀ c ∈ after, isBlank c) ∧ t = before ++ trim t ++ after := by
  obtain ⟨before, hbefore, hstart⟩ := exists_append_trimStart t
  obtain ⟨after, hafter, hend⟩ := exists_trimEnd_append (trimStart t)
  refine ⟨before, after, hbefore, hafter, ?_⟩
  rw [List.append_assoc, trim, ← hend]
  exact hstart

theorem isBlank_of_head?_trim {c : Char} (h : (trim t).head? = some c) : isBlank c = false := by
  obtain ⟨after, -, hend⟩ := exists_trimEnd_append (trimStart t)
  refine isBlank_of_head?_trimStart (t := t) ?_
  rw [hend, List.head?_append, ← trim, h]
  rfl

theorem isBlank_of_getLast?_trim {c : Char} (h : (trim t).getLast? = some c) :
    isBlank c = false := by
  rw [trim, trimEnd_eq, List.getLast?_reverse] at h
  exact isBlank_of_head?_trimStart h

end Text
end ExprMigration
