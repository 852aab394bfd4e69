import ExprMigration.Text.Basic
import ExprMigration.Text.Case.Classes

/-!
# Lower case

The lower-case form of a text by the Unicode rules: every character goes to its lower-case
counterpart, `İ` to `i` and a combining dot, and a capital sigma at the end of a word to the final
sigma.
-/

namespace ExprMigration
namespace Text

/-- The lower-case counterpart of a character that has a single one. -/
def lowerChar (c : Char) : Char :=
  if c.toNat < 128 then c.toLower
  else
    match lowerShifts.find? fun (first, last, step, _) =>
        first ≤ c.toNat && c.toNat ≤ last && (c.toNat - first) % step == 0 with
    | none => c
    | some (_, _, _, shift) => Char.ofNat (Int.toNat (c.toNat + shift))

/-- Whether the first character of a text that is not case-ignorable is a cased one. -/
def meetsCased (t : Text) : Bool :=
  match t.dropWhile caseIgnorableRanges.holds with
  | [] => false
  | c :: _ => casedRanges.holds c

/-- The lower-case form of the rest of a text, given the characters before it, nearest first. -/
def lowerAfter (before : Text) : Text → Text
  | [] => []
  | c :: cs =>
    if c = 'İ' then 'i' :: '\u0307' :: lowerAfter (c :: before) cs
    else if c = 'Σ' then
      (if meetsCased before && !meetsCased cs then 'ς' else 'σ') :: lowerAfter (c :: before) cs
    else lowerChar c :: lowerAfter (c :: before) cs

/-- The lower-case form of a text. -/
def lower (t : Text) : Text := lowerAfter [] t

end Text
end ExprMigration
