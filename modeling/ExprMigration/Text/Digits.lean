import ExprMigration.Text.Basic

/-!
# Digits

Numbers written with decimal or hexadecimal digits.
-/

namespace ExprMigration
namespace Text

/-- The value of a decimal digit. -/
def digitValue (c : Char) : Nat := c.toNat - '0'.toNat

/-- The number that decimal digits write. -/
def ofDigits (digits : Text) : Nat := digits.foldl (fun n c => 10 * n + digitValue c) 0

/-- The decimal digits of a number. -/
def ofNat (n : Nat) : Text := Nat.toDigits 10 n

/-- The value of a hexadecimal digit. -/
def hexValue? (c : Char) : Option Nat :=
  if '0' ≤ c ∧ c ≤ '9' then some (c.toNat - '0'.toNat)
  else if 'a' ≤ c ∧ c ≤ 'f' then some (c.toNat - 'a'.toNat + 10)
  else if 'A' ≤ c ∧ c ≤ 'F' then some (c.toNat - 'A'.toNat + 10)
  else none

/-- The number that digits write in a base of at most sixteen; there has to be a digit. -/
def ofDigits? (base : Nat) (digits : Text) : Option Nat :=
  if digits = [] then none
  else
    digits.foldlM (fun n c => (hexValue? c).bind fun value =>
      if value < base then some (base * n + value) else none) 0

/-- The hexadecimal digits of a number. -/
def hexDigits (n : Nat) : Text := Nat.toDigits 16 n

end Text
end ExprMigration
