import ExprMigration.Decimal.Layout
import ExprMigration.Text.Digits

/-!
# Numbers of JSON

The grammar of number literals, and the number that a literal denotes: a natural number or a
negative integer where one fits into 64 bits, and else a floating-point number.  A floating-point
number is formed from the digits that fit into 64 bits and a power of ten, in one or two rounded
steps; it can be too large.
-/

namespace ExprMigration
namespace Json

/-! ## Literals -/

/-- The digits at the beginning of a text, of which there has to be one, and the rest. -/
def digits? (t : Text) : Option (Text × Text) :=
  match t.takeWhile Char.isDigit with
  | [] => none
  | first :: more => some (first :: more, t.dropWhile Char.isDigit)

/-- The whole digits of a number: a zero alone, or digits that do not begin with one. -/
def whole? (t : Text) : Option (Text × Text) :=
  match digits? t with
  | some ('0' :: _ :: _, _) => none
  | found => found

/-- A sign in front of a text, if there is one. -/
def sign (signs : List Char) : Text → Text × Text
  | c :: rest => if signs.contains c then ([c], rest) else ([], c :: rest)
  | [] => ([], [])

/-- The digits behind the point, if there is a point. -/
def fraction? : Text → Option (Text × Text)
  | '.' :: rest => digits? rest
  | t => some ([], t)

/-- The exponent with its sign, if there is one. -/
def exponent? : Text → Option (Text × Text)
  | c :: rest =>
    if c = 'e' ∨ c = 'E' then
      let (mark, rest) := sign ['+', '-'] rest
      (digits? rest).map fun (digits, rest) => (mark ++ digits, rest)
    else some ([], c :: rest)
  | [] => some ([], [])

/-- The parts of a number literal. -/
structure Literal where
  negative : Bool
  whole : Text
  fraction : Text
  /-- The exponent with its sign; empty if there is none. -/
  exponent : Text
deriving Repr, DecidableEq

/-- The number literal at the beginning of a text. -/
def Literal.read? (t : Text) : Option (Literal × Text) :=
  let (minus, rest) := sign ['-'] t
  match whole? rest with
  | none => none
  | some (whole, rest) =>
    match fraction? rest with
    | none => none
    | some (fraction, rest) =>
      (exponent? rest).map fun (exponent, rest) => (⟨minus ≠ [], whole, fraction, exponent⟩, rest)

/-! ## Numbers -/

/-- What a number literal denotes. -/
inductive Number where
  | natural (value : Nat)
  | negative (magnitude : Nat)
  | float (value : Float)
  /-- The number is larger than every floating-point number. -/
  | tooLarge

/-- Appends digits to a number as long as it fits into 64 bits; the other digits remain. -/
def accumulate (start : Nat) : Text → Nat × Text
  | [] => (start, [])
  | c :: rest =>
    if 10 * start + Text.digitValue c < Nat.pow 2 64 then
      accumulate (10 * start + Text.digitValue c) rest
    else (start, c :: rest)

/-- The largest power of ten that is a floating-point number has this exponent. -/
def powerLimit : Nat := 308

/-- A power of ten. -/
def powerOfTen (n : Nat) : Float := Float.ofScientific 1 false n

/-- A number divided by a power of ten, in steps of the largest power. -/
def divided : Nat → Float → Nat → Float
  | 0, x, _ => x
  | fuel + 1, x, n =>
    if n ≤ powerLimit then x / powerOfTen n
    else if x == 0 then x
    else divided fuel (x / powerOfTen powerLimit) (n - powerLimit)

/-- A number times a power of ten, if that is not too large. -/
def scaled? (x : Float) (exponent : Int) : Option Float :=
  if exponent < 0 then some (divided 4 x exponent.natAbs)
  else if exponent.natAbs ≤ powerLimit then
    let product := x * powerOfTen exponent.natAbs
    if product.isInf then none else some product
  else if x == 0 then some x
  else none

/-- The value of an exponent with its sign. -/
def exponentValue : Text → Int
  | '-' :: digits => -(Text.ofDigits digits : Int)
  | '+' :: digits => Text.ofDigits digits
  | digits => Text.ofDigits digits

namespace Literal

/-- The floating-point number that a literal denotes. -/
def toFloat? (literal : Literal) : Option Float :=
  let (significand, dropped) := accumulate 0 literal.whole
  let (significand, unused) := accumulate significand literal.fraction
  let place : Int := (dropped.length : Int) - (literal.fraction.length - unused.length : Nat)
  (scaled? (Float.ofNat significand) (place + exponentValue literal.exponent)).map fun x =>
    if literal.negative then -x else x

/-- The number that a literal denotes. -/
def toNumber (literal : Literal) : Number :=
  let whole := Text.ofDigits literal.whole
  if literal.fraction = [] ∧ literal.exponent = [] ∧ ¬ literal.negative ∧
      whole < Nat.pow 2 64 then
    .natural whole
  else if literal.fraction = [] ∧ literal.exponent = [] ∧ literal.negative ∧ 0 < whole ∧
      whole ≤ Nat.pow 2 63 then
    .negative whole
  else
    match literal.toFloat? with
    | some x => .float x
    | none => .tooLarge

end Literal

/-- The number that a text writes. -/
def Number.ofText (t : Text) : Option Number :=
  (Literal.read? t).map fun (literal, _) => literal.toNumber

end Json
end ExprMigration
