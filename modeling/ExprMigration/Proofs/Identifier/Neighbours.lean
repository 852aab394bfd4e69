import ExprMigration.Proofs.Identifier.Alphabet
import ExprMigration.Proofs.Text.LowerCase

/-!
# Identifiers place by place

`camelFrom` reads a name from left to right and carries along whether the next letter is raised.  What
it carries is decided by the last character alone (`camelFrom_eq_flatMap`), so that every place of a
name can be looked at by itself, together with the place before it (`ofName_eq_camelCase`).
-/

namespace ExprMigration
namespace Identifier

/-- Whether a letter right behind this character is raised. -/
def raisesNext (c : Char) : Bool := c.isDigit || isSeparator c

/-- What the character at a place of a lower-case name becomes. -/
def atPlace (name : Text) (place : Nat) : Text :=
  match name[place]? with
  | none => []
  | some c =>
    if !c.isAlphanum then []
    else if c.isAlpha && decide (0 < place) && (name[place - 1]?).any raisesNext then [c.toUpper]
    else [c]

/-- The letters and digits of a lower-case name, place by place. -/
def camelCase (name : Text) : Text := (List.range name.length).flatMap (atPlace name)

/-! ## The carried flag -/

/-- The place behind `before`. -/
theorem atPlace_length (before : Text) (c : Char) (t : Text) :
    atPlace (before ++ c :: t) before.length =
      if !c.isAlphanum then []
      else if c.isAlpha && before.getLast?.any raisesNext then [c.toUpper]
      else [c] := by
  rcases before.eq_nil_or_concat with rfl | ⟨front, last, rfl⟩ <;> simp [atPlace]

theorem raisesNext_of_isAlpha {c : Char} (h : c.isAlpha) : raisesNext c = false := by
  rw [Bool.eq_false_iff]
  intro hraises
  simp only [raisesNext, isSeparator, Bool.or_eq_true, beq_iff_eq] at hraises
  rcases hraises with hdigit | ((rfl | rfl) | rfl) | rfl
  · grind [Char.isAlpha, Char.isUpper, Char.isLower, Char.isDigit]
  all_goals exact absurd h (by decide)

/-- The induction goes along the rest of a name, and the flag is read off what is in front of it. -/
theorem camelFrom_eq_flatMap (before t : Text) :
    camelFrom (before.getLast?.any raisesNext) t =
      (List.range' before.length t.length).flatMap (atPlace (before ++ t)) := by
  induction t generalizing before with
  | nil => rfl
  | cons c t ih =>
    have hrest : camelFrom (raisesNext c) t =
        (List.range' (before.length + 1) t.length).flatMap (atPlace (before ++ c :: t)) := by
      simpa using ih (before ++ [c])
    rw [List.length_cons, List.range'_succ, List.flatMap_cons, atPlace_length, ← hrest, camelFrom]
    by_cases hletter : c.isAlpha
    · rw [raisesNext_of_isAlpha hletter]
      cases before.getLast?.any raisesNext <;> simp [Char.isAlphanum, hletter]
    · by_cases hdigit : c.isDigit
      · simp [Char.isAlphanum, raisesNext, hletter, hdigit]
      · simp [Char.isAlphanum, raisesNext, hletter, hdigit]

theorem camelFrom_eq_camelCase (name : Text) : camelFrom false name = camelCase name := by
  rw [camelCase, List.range_eq_range']
  exact camelFrom_eq_flatMap [] name

/-! ## Letters and digits -/

theorem toNat_lt_of_isAlphanum {c : Char} (h : c.isAlphanum) : c.toNat < 128 := by
  have hranges : ((0x41 ≤ c.toNat ∧ c.toNat ≤ 0x5A) ∨ 0x61 ≤ c.toNat ∧ c.toNat ≤ 0x7A) ∨
      0x30 ≤ c.toNat ∧ c.toNat ≤ 0x39 := by
    simpa [Char.isAlphanum, Char.isAlpha, Char.isUpper, Char.isLower, Char.isDigit,
      UInt32.le_iff_toNat_le] using h
  omega

/-- In lower case again, the letters and digits that are kept are those of the name. -/
theorem map_toLower_camelFrom {raise : Bool} {name : Text} (h : ∀ c ∈ name, c.isUpper = false) :
    (camelFrom raise name).map Char.toLower = name.filter Char.isAlphanum := by
  induction name generalizing raise with
  | nil => rfl
  | cons c t ih =>
    have hlower : c.toLower = c :=
      Char.toLower_eq_of_not_isUpper (by simp [h c List.mem_cons_self])
    have hrest : ∀ raise, (camelFrom raise t).map Char.toLower = t.filter Char.isAlphanum :=
      fun _ => ih fun d hd => h d (List.mem_cons_of_mem c hd)
    rw [camelFrom]
    split
    · next hletter =>
      cases raise <;> simp [Char.isAlphanum, hletter, hlower, hrest]
    · next hletter =>
      split
      · next hdigit => simp [Char.isAlphanum, hdigit, hlower, hrest]
      · next hdigit => simp [Char.isAlphanum, hletter, hdigit, hrest]

/-- The identifier for a name is its letters and digits in order, each letter raised exactly if the
character before it is a digit or a separator, with an underscore in front of a leading digit.  In
lower case, and without that underscore, nothing but the letters and digits of the name is left. -/
theorem ofName_eq_camelCase (raw : Text) :
    let name := Text.lower (Text.trim raw)
    ofName raw = (if name.head?.any Char.isDigit then ['_'] else []) ++ camelCase name ∧
      Text.lower (camelCase name) = name.filter Char.isAlphanum := by
  intro name
  have hguard : guardFor name = if name.head?.any Char.isDigit then ['_'] else [] := by
    cases name with
    | nil => rfl
    | cons c t => rfl
  constructor
  · rw [← camelFrom_eq_camelCase, ← hguard]
    rfl
  · rw [← camelFrom_eq_camelCase,
      Text.lower_of_ascii fun c hc => toNat_lt_of_isAlphanum (isAlphanum_of_mem_camelFrom hc)]
    exact map_toLower_camelFrom fun c hc => Text.isUpper_of_mem_lower hc

example : ofName " 2nd db-Key.v1x ".toList = "_2NdDbKeyV1X".toList := by decide +kernel

end Identifier
end ExprMigration
