import ExprMigration.Identifier
import Mathlib

/-!
# The alphabet of identifiers

Whatever characters a name holds, its identifier consists of ASCII letters and digits, but for an
underscore in first place with a digit behind it (`Identifier.isIdentifier_ofName`).
-/

namespace ExprMigration
namespace Identifier

/-- ASCII letters and digits, possibly behind one underscore that guards a digit. -/
def IsIdentifier (t : Text) : Prop :=
  (∀ c ∈ t, c.isAlphanum) ∨
    ∃ digit rest, t = '_' :: digit :: rest ∧ digit.isDigit ∧ ∀ c ∈ rest, c.isAlphanum

theorem isAlphanum_of_mem_camelFrom {raise : Bool} {t : Text} {c : Char}
    (h : c ∈ camelFrom raise t) : c.isAlphanum := by
  induction t generalizing raise with
  | nil => simp [camelFrom] at h
  | cons d t ih =>
    rw [camelFrom] at h
    split at h
    · next hletter =>
      -- the upper-case form of a letter is a letter
      have hupper : d.toUpper.isAlpha := by
        grind [Char.isAlpha, Char.isUpper, Char.isLower, Char.toUpper]
      rcases List.mem_cons.1 h with rfl | h
      · split <;> simp [Char.isAlphanum, hletter, hupper]
      · exact ih h
    · split at h
      · next hdigit =>
        rcases List.mem_cons.1 h with rfl | h
        · simp [Char.isAlphanum, hdigit]
        · exact ih h
      · exact ih h

/-- A digit in first place stays in first place. -/
theorem camelFrom_digit {raise : Bool} {c : Char} (hc : c.isDigit) (t : Text) :
    camelFrom raise (c :: t) = c :: camelFrom true t := by
  have hletter : c.isAlpha = false := by
    grind [Char.isAlpha, Char.isUpper, Char.isLower, Char.isDigit]
  simp [camelFrom, hletter, hc]

theorem isIdentifier_ofName (name : Text) : IsIdentifier (ofName name) := by
  rw [ofName]
  generalize Text.lower (Text.trim name) = plain
  cases plain with
  | nil => exact .inl (by simp [guardFor, camelFrom])
  | cons c t =>
    by_cases hc : c.isDigit
    · -- only a leading digit gets the guard
      refine .inr ⟨c, camelFrom true t, ?_, hc, fun _ => isAlphanum_of_mem_camelFrom⟩
      simp [guardFor, hc, camelFrom_digit hc]
    · refine .inl fun d hd => ?_
      simp only [guardFor, hc, Bool.false_eq_true, if_false, List.nil_append] at hd
      exact isAlphanum_of_mem_camelFrom hd

namespace IsIdentifier

variable {t : Text}

theorem mem {c : Char} (h : IsIdentifier t) (hc : c ∈ t) : c.isAlphanum ∨ c = '_' := by
  rcases h with h | ⟨digit, rest, rfl, hdigit, hrest⟩
  · exact .inl (h c hc)
  · rcases List.mem_cons.1 hc with rfl | hc
    · exact .inr rfl
    · rcases List.mem_cons.1 hc with rfl | hc
      · exact .inl (by simp [Char.isAlphanum, hdigit])
      · exact .inl (hrest c hc)

/-- A character that is neither letter nor digit nor underscore does not occur. -/
theorem count_eq_zero {c : Char} (h : IsIdentifier t) (hc : ¬ c.isAlphanum) (hguard : c ≠ '_') :
    t.count c = 0 := by
  refine List.count_eq_zero.2 fun hmem => ?_
  rcases h.mem hmem with hmem | hmem
  · exact hc hmem
  · exact hguard hmem

end IsIdentifier
end Identifier
end ExprMigration
