import ExprMigration.Text.Case
import Mathlib

/-!
# Texts in lower case

A text in lower case holds no capital ASCII letter (`Text.isUpper_of_mem_lower`), since no character has
one for its counterpart.  On a text of ASCII characters lower-casing goes character by character
(`Text.lower_of_ascii`).
-/

namespace ExprMigration
namespace Text

theorem isUpper_iff_toNat {c : Char} : c.isUpper ↔ 0x41 ≤ c.toNat ∧ c.toNat ≤ 0x5A := by
  simp [Char.isUpper, UInt32.le_iff_toNat_le]

/-- The shifts lead beyond the capital ASCII letters. -/
theorem lt_of_mem_lowerShifts :
    ∀ entry ∈ lowerShifts, 0x5A < (entry.1 : Int) + entry.2.2.2 := by decide +kernel

theorem isUpper_lowerChar (c : Char) : (lowerChar c).isUpper = false := by
  rw [lowerChar]
  split
  · exact Char.isUpper_toLower_eq_false c
  · next hascii =>
    split
    · rw [Bool.eq_false_iff, ne_eq, isUpper_iff_toNat]
      omega
    · next first last step shift hfind =>
      have hfirst : first ≤ c.toNat := by
        have := List.find?_some hfind
        simp only [Bool.and_eq_true, decide_eq_true_eq] at this
        exact this.1.1
      have hshift : 0x5A < (first : Int) + shift :=
        lt_of_mem_lowerShifts _ (List.mem_of_find?_eq_some hfind)
      rw [Bool.eq_false_iff, ne_eq, isUpper_iff_toNat, Char.toNat_ofNat]
      split <;> omega

theorem isUpper_of_mem_lowerAfter {before t : Text} {c : Char} (h : c ∈ lowerAfter before t) :
    c.isUpper = false := by
  induction t generalizing before with
  | nil => simp [lowerAfter] at h
  | cons d t ih =>
    rw [lowerAfter] at h
    split at h
    · simp only [List.mem_cons] at h
      rcases h with rfl | rfl | h
      · decide
      · decide
      · exact ih h
    · split at h
      · rcases List.mem_cons.1 h with rfl | h
        · split <;> decide
        · exact ih h
      · rcases List.mem_cons.1 h with rfl | h
        · exact isUpper_lowerChar d
        · exact ih h

theorem isUpper_of_mem_lower {t : Text} {c : Char} (h : c ∈ lower t) : c.isUpper = false :=
  isUpper_of_mem_lowerAfter h

theorem lowerAfter_of_ascii {before t : Text} (h : ∀ c ∈ t, c.toNat < 128) :
    lowerAfter before t = t.map Char.toLower := by
  induction t generalizing before with
  | nil => rfl
  | cons c t ih =>
    have hc : c.toNat < 128 := h c List.mem_cons_self
    have hdot : c ≠ 'İ' := by
      rintro rfl
      exact absurd hc (by decide)
    have hsigma : c ≠ 'Σ' := by
      rintro rfl
      exact absurd hc (by decide)
    rw [lowerAfter, if_neg hdot, if_neg hsigma, lowerChar, if_pos hc, List.map_cons,
      ih fun d hd => h d (List.mem_cons_of_mem c hd)]

theorem lower_of_ascii {t : Text} (h : ∀ c ∈ t, c.toNat < 128) : lower t = t.map Char.toLower :=
  lowerAfter_of_ascii h

end Text
end ExprMigration
