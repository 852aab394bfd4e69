import ExprMigration.Decimal.Shortest
import ExprMigration.Text.Basic

/-!
# Layouts of numbers

How a floating-point number is written: with its shortest digits, with at least one digit behind
the point where there is a point, and in places or with an exponent as the layout says.
-/

namespace ExprMigration
namespace Decimal

/-- The choices of a layout. -/
structure Layout where
  /-- The places of the first digit for which a number is written without an exponent, if there is a
  limit. -/
  plainPlaces : Option (Int × Int)
  /-- The least number of digits of an exponent. -/
  exponentDigits : Nat
  notANumber : String
  infinity : String

/-- Numbers are written without an exponent from `0.00001` to below `10 ^ 16`; an exponent has a
sign and two digits. -/
def Layout.compact : Layout := ⟨some (-5, 15), 2, "NaN", "inf"⟩

/-- Numbers are written without an exponent. -/
def Layout.plain : Layout := ⟨none, 0, "NaN", "inf"⟩

/-- The digits of a number, with zeros in front up to a width. -/
def padded (width n : Nat) : Text :=
  let digits := Nat.toDigits 10 n
  List.replicate (width - digits.length) '0' ++ digits

/-- A decimal in places. -/
def inPlaces (d : Decimal) : Text :=
  let digits := Nat.toDigits 10 d.digits
  if 0 ≤ d.exponent then digits ++ List.replicate d.exponent.toNat '0' ++ ".0".toList
  else
    let behind := (-d.exponent).toNat
    if behind < digits.length then
      digits.take (digits.length - behind) ++ '.' :: digits.drop (digits.length - behind)
    else "0.".toList ++ List.replicate (behind - digits.length) '0' ++ digits

/-- A decimal with an exponent. -/
def withExponent (layout : Layout) (d : Decimal) : Text :=
  let digits := Nat.toDigits 10 d.digits
  let place := d.exponent + (digits.length : Int) - 1
  let mantissa := match digits with
    | first :: second :: rest => first :: '.' :: second :: rest
    | short => short
  mantissa ++ 'e' :: (if place < 0 then '-' else '+') :: padded layout.exponentDigits place.natAbs

/-- A floating-point number in a layout. -/
def write (layout : Layout) (x : Float) : Text :=
  if x.isNaN then layout.notANumber.toList
  else
    let bits := x.toBits
    let sign : Text := if bits >>> 63 = 1 then ['-'] else []
    if x.isInf then sign ++ layout.infinity.toList
    else if x == 0 then sign ++ "0.0".toList
    else
      let d := shortest (intervalOfBits bits)
      let place := d.exponent + ((Nat.toDigits 10 d.digits).length : Int) - 1
      let plain := match layout.plainPlaces with
        | none => true
        | some (first, last) => decide (first ≤ place ∧ place ≤ last)
      sign ++ if plain then inPlaces d else withExponent layout d

end Decimal
end ExprMigration
