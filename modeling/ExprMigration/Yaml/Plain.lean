import ExprMigration.Decimal.Layout
import ExprMigration.Text.Quoted

/-!
# What plain scalars mean

A scalar without quotes and without a tag stands for nothing, a truth value, a number or a text,
according to how it is written.
-/

namespace ExprMigration
namespace Yaml

/-- What a plain scalar means. -/
inductive Meaning where
  | nothing
  | bool (value : Bool)
  | integer (value : Int)
  | float (value : Float)
  | text

namespace Meaning

/-- Whether a text is one of some words. -/
def isWord (words : List String) (t : Text) : Bool := words.any (·.toList = t)

/-- The truth value that a text writes. -/
def bool? (t : Text) : Option Bool :=
  if isWord ["true", "True", "TRUE"] t then some true
  else if isWord ["false", "False", "FALSE"] t then some false
  else none

/-- Whether a text writes nothing. -/
def isNothing (t : Text) : Bool := isWord ["null", "Null", "NULL", "~"] t

/-! ## Integers -/

/-- A text without the sign at its beginning, if there is one. -/
def unsigned : Text → Text
  | c :: rest => if c = '+' ∨ c = '-' then rest else c :: rest
  | [] => []

/-- Whether a text has a zero in front of other digits, which makes it no number. -/
def hasIdleZero (t : Text) : Bool :=
  match unsigned t with
  | '0' :: d :: rest => (d :: rest).all Char.isDigit
  | _ => false

/-- The number that digits write behind one of the marks of a base, or in base ten. -/
def magnitude? (t : Text) : Option Nat :=
  match t with
  | '0' :: 'x' :: digits => Text.ofDigits? 16 digits
  | '0' :: 'o' :: digits => Text.ofDigits? 8 digits
  | '0' :: 'b' :: digits => Text.ofDigits? 2 digits
  | digits => if hasIdleZero digits then none else Text.ofDigits? 10 digits

/-- The integer of at most 128 bits that a text writes. -/
def integer? (t : Text) : Option Int :=
  match t with
  | '-' :: rest =>
    match magnitude? rest with
    | some n => if n ≤ Nat.pow 2 127 then some (-(n : Int)) else none
    | none => none
  | _ =>
    let rest := match t with
      | '+' :: rest => rest
      | rest => rest
    match magnitude? rest with
    | some n => if n < Nat.pow 2 128 then some (n : Int) else none
    | none => none

/-! ## Floating-point numbers -/

/-- The exponent behind its sign letter. -/
def exponent? : Text → Option Int
  | '-' :: digits => (Text.ofDigits? 10 digits).map fun n => -(n : Int)
  | '+' :: digits => (Text.ofDigits? 10 digits).map fun n => (n : Int)
  | digits => (Text.ofDigits? 10 digits).map fun n => (n : Int)

/-- The digits of a decimal without a sign, and its exponent. -/
def decimal? (t : Text) : Option (Text × Int) :=
  let whole := t.takeWhile Char.isDigit
  let rest := t.dropWhile Char.isDigit
  let (fraction, rest) := match rest with
    | '.' :: rest => (rest.takeWhile Char.isDigit, rest.dropWhile Char.isDigit)
    | rest => ([], rest)
  if whole ++ fraction = [] then none
  else
    let exponent := match rest with
      | [] => some 0
      | c :: rest => if c = 'e' ∨ c = 'E' then exponent? rest else none
    exponent.map fun exponent => (whole ++ fraction, exponent - fraction.length)

/-- The finite number nearest to some digits times a power of ten. -/
def nearest? (digits : Text) (exponent : Int) : Option Float :=
  let digits := digits.dropWhile (· == '0')
  let place := (digits.length : Int) + exponent
  if digits = [] ∨ place < -400 then some 0
  else if 400 < place then none
  else
    let x := Float.ofScientific (Text.ofDigits digits) (decide (exponent < 0)) exponent.natAbs
    if x.isInf then none else some x

/-- The finite number that a text without a sign writes. -/
def finite? (t : Text) : Option Float :=
  (decimal? t).bind fun (digits, exponent) => nearest? digits exponent

/-- The floating-point number that a text writes. -/
def float? (t : Text) : Option Float :=
  if isWord [".inf", ".Inf", ".INF", "+.inf", "+.Inf", "+.INF"] t then some (1 / 0)
  else if isWord ["-.inf", "-.Inf", "-.INF"] t then some (-1 / 0)
  else if isWord [".nan", ".NaN", ".NAN"] t then some (0 / 0)
  else
    match t with
    | '+' :: rest => finite? rest
    | '-' :: rest => (finite? rest).map fun x => -x
    | rest => finite? rest

/-! ## All scalars -/

/-- What a plain scalar means. -/
def ofText (t : Text) : Meaning :=
  if t = [] ∨ isNothing t then .nothing
  else
    match bool? t, integer? t with
    | some value, _ => .bool value
    | none, some value => .integer value
    | none, none =>
      match if hasIdleZero t then none else float? t with
      | some value => .float value
      | none => .text

/-- How a message calls a meaning; a text is called by its characters. -/
def called (t : Text) : Meaning → Text
  | .nothing => "unit value".toList
  | .bool value => "boolean `".toList ++ (toString value).toList ++ ['`']
  | .integer value =>
    let digits := "integer `".toList ++ (toString value).toList ++ ['`']
    if value < -(Nat.pow 2 63 : Int) then digits ++ " as i128".toList
    else if (Nat.pow 2 64 : Int) ≤ value then digits ++ " as u128".toList
    else digits
  | .float value => "floating point `".toList ++ Decimal.write .plain value ++ ['`']
  | .text => "string ".toList ++ Text.quoted t

end Meaning
end Yaml
end ExprMigration
