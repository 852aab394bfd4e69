/-!
# Shortest decimals

The shortest decimal that reads back as a given binary floating-point number, and of several
shortest ones the nearest.  All arithmetic is exact, on natural numbers.

A finite number is `m * 2 ^ q`.  The reals that round to it form an interval around it, whose ends
count exactly when `m` is even.  On each decimal grid, from coarse to fine, only the two neighbours
of the number can be the nearest point in the interval.
-/

namespace ExprMigration

/-- A positive decimal: `digits * 10 ^ exponent`. -/
structure Decimal where
  digits : Nat
  exponent : Int
deriving Repr, DecidableEq

namespace Decimal

/-- The positive number `num / den` with the interval from `low / den` to `high / den` of what rounds
to it. -/
structure Interval where
  num : Nat
  den : Nat
  low : Nat
  high : Nat
  /-- Whether the ends belong to the interval. -/
  closed : Bool
deriving Repr

namespace Interval

/-- The interval of `m * 2 ^ q`.  `narrow` says that the next number below is only half as far away
as the one above. -/
def ofBinary (m : Nat) (q : Int) (narrow : Bool) : Interval :=
  let up := Nat.pow 2 q.toNat
  let down := Nat.pow 2 (-q).toNat
  { num := 4 * m * up
    den := 4 * down
    low := (4 * m - if narrow then 1 else 2) * up
    high := (4 * m + 2) * up
    closed := m % 2 == 0 }

/-- Whether `digits * 10 ^ exponent` lies in the interval. -/
def holds (i : Interval) (d : Decimal) : Bool :=
  let value := d.digits * Nat.pow 10 d.exponent.toNat * i.den
  let scale := Nat.pow 10 (-d.exponent).toNat
  if i.closed then i.low * scale ≤ value && value ≤ i.high * scale
  else i.low * scale < value && value < i.high * scale

/-- Twice the distance of `digits * 10 ^ exponent` from the number, in a unit that depends on the
exponent only. -/
def distance (i : Interval) (d : Decimal) : Nat :=
  let value := d.digits * Nat.pow 10 d.exponent.toNat * i.den
  let middle := i.num * Nat.pow 10 (-d.exponent).toNat
  (value - middle) + (middle - value)

/-- The place of the first digit of the number: the largest `p` with `10 ^ p` at most the number. -/
def leadingPlace (i : Interval) : Int :=
  if i.den ≤ i.num then ((Nat.toDigits 10 (i.num / i.den)).length : Int) - 1
  else
    match (List.range 400).find? fun s => i.den ≤ i.num * Nat.pow 10 s with
    | some s => -(s : Int)
    | none => 0

/-- The best decimal with at most `count` digits, if one lies in the interval. -/
def onGrid? (i : Interval) (count : Nat) : Option Decimal :=
  let exponent := i.leadingPlace - (count : Int) + 1
  let below := i.num * Nat.pow 10 (-exponent).toNat / (i.den * Nat.pow 10 exponent.toNat)
  let lower : Decimal := ⟨below, exponent⟩
  let upper : Decimal := ⟨below + 1, exponent⟩
  match i.holds lower, i.holds upper with
  | false, false => none
  | true, false => some lower
  | false, true => some upper
  | true, true =>
    if i.distance lower < i.distance upper ∨
        i.distance lower = i.distance upper ∧ below % 2 = 0 then some lower
    else some upper

end Interval

/-- The decimal without zeros at the end of its digits.  `fuel` bounds their number. -/
def stripped : Nat → Decimal → Decimal
  | 0, d => d
  | fuel + 1, d =>
    if d.digits ≠ 0 ∧ d.digits % 10 = 0 then stripped fuel ⟨d.digits / 10, d.exponent + 1⟩ else d

/-- The shortest decimal in an interval; seventeen digits always suffice. -/
def shortest (i : Interval) : Decimal :=
  (((List.range 17).findSome? fun n => i.onGrid? (n + 1)).getD ⟨0, 0⟩).stripped 20

/-- The sign and the magnitude of a finite number that is not zero, as the interval of its bits. -/
def intervalOfBits (bits : UInt64) : Interval :=
  let fraction := (bits &&& 0xFFFFFFFFFFFFF).toNat
  let biased := ((bits >>> 52) &&& 0x7FF).toNat
  if biased = 0 then .ofBinary fraction (-1074) false
  else .ofBinary (Nat.pow 2 52 + fraction) ((biased : Int) - 1075) (fraction == 0 && 1 < biased)

end Decimal
end ExprMigration
