import ExprMigration.Json.Number
import ExprMigration.Json.Basic

/-!
# Reading JSON

A text is read from left to right; the first fault ends the reading, and what was read before it is
kept.  The reader returns the value and the rest of the text behind it, or no rest if it met a
fault.
-/

namespace ExprMigration
namespace Json

/-- A text without the blanks at its beginning. -/
def skipBlanks (t : Text) : Text := t.dropWhile isBlank

/-! ## Texts -/

/-- The unit that four hexadecimal digits write. -/
def unit? (a b c d : Char) : Option Nat := Text.ofDigits? 16 [a, b, c, d]

/-- What an escape of one letter stands for. -/
def escaped? : Char → Option Char
  | '"' => some '"'
  | '\\' => some '\\'
  | '/' => some '/'
  | 'b' => some '\x08'
  | 'f' => some '\x0C'
  | 'n' => some '\n'
  | 'r' => some '\r'
  | 't' => some '\t'
  | _ => none

/-- A piece of a text: a character, or a unit of sixteen bits from an escape. -/
inductive Piece where
  | char (c : Char)
  | unit (value : Nat)
deriving Repr, DecidableEq

/-- The pieces of a text up to its closing quote, and the rest behind it. -/
def pieces? : Text → Option (List Piece × Text)
  | [] => none
  | '"' :: rest => some ([], rest)
  | '\\' :: 'u' :: a :: b :: c :: d :: rest =>
    match unit? a b c d with
    | some unit => (pieces? rest).map fun (pieces, rest) => (.unit unit :: pieces, rest)
    | none => none
  | '\\' :: c :: rest =>
    match escaped? c with
    | some e => (pieces? rest).map fun (pieces, rest) => (.char e :: pieces, rest)
    | none => none
  | c :: rest =>
    if c.toNat < 0x20 ∨ c = '\\' then none
    else (pieces? rest).map fun (pieces, rest) => (.char c :: pieces, rest)

/-- Whether a unit is the first half of a surrogate pair. -/
def isHigh (unit : Nat) : Bool := 0xD800 ≤ unit && unit ≤ 0xDBFF

/-- Whether a unit is the second half of a surrogate pair. -/
def isLow (unit : Nat) : Bool := 0xDC00 ≤ unit && unit ≤ 0xDFFF

/-- The characters that pieces stand for, if every half of a surrogate pair has its other half. -/
def paired? : List Piece → Option Text
  | [] => some []
  | .char c :: rest => (paired? rest).map (c :: ·)
  | .unit high :: .unit low :: rest =>
    if isHigh high then
      if isLow low then
        (paired? rest).map (Char.ofNat (0x10000 + 0x400 * (high - 0xD800) + (low - 0xDC00)) :: ·)
      else none
    else if isLow high then none
    else (paired? (.unit low :: rest)).map (Char.ofNat high :: ·)
  | .unit unit :: rest =>
    if isHigh unit || isLow unit then none else (paired? rest).map (Char.ofNat unit :: ·)

/-- The value that pieces stand for. -/
def ofPieces (pieces : List Piece) : Json :=
  match paired? pieces with
  | some t => .text t
  | none => .unpaired

/-! ## Values -/

/-- A value and the rest behind it; no rest if there was a fault. -/
abbrev Reading := Json × Option Text

/-- The reading of a place where there is no value. -/
def noValue : Reading := (.broken, none)

/-- A word that stands for a value. -/
def word (name : String) (value : Json) (t : Text) : Reading :=
  match Text.afterLead? name.toList t with
  | some rest => (value, some rest)
  | none => noValue

/-- A value that is neither an array nor an object. -/
def scalar (t : Text) : Reading :=
  match t with
  | [] => noValue
  | c :: rest =>
    if c = 'n' then word "null" .null t
    else if c = 't' then word "true" (.bool true) t
    else if c = 'f' then word "false" (.bool false) t
    else if c = '"' then
      match pieces? rest with
      | some (pieces, rest) => (ofPieces pieces, some rest)
      | none => noValue
    else
      match Literal.read? t with
      | some (_, rest) => (.number (t.take (t.length - rest.length)), some rest)
      | none => noValue

mutual

/-- The value at the beginning of a text.  `fuel` bounds the number of steps. -/
def valueFrom : Nat → Text → Reading
  | 0, _ => noValue
  | fuel + 1, t =>
    match skipBlanks t with
    | '[' :: rest =>
      let (items, rest) := itemsFrom fuel true rest
      (.array items, rest)
    | '{' :: rest =>
      let (members, rest) := membersFrom fuel true rest
      (.object members, rest)
    | t => scalar t

/-- The items of an array up to its end.  `first` says that no item was read yet. -/
def itemsFrom : Nat → Bool → Text → List Json × Option Text
  | 0, _, _ => ([.broken], none)
  | fuel + 1, first, t =>
    match skipBlanks t with
    | ']' :: rest => ([], some rest)
    | t =>
      match if first then some t else Text.afterLead? [','] t with
      | none => ([.broken], none)
      | some t =>
        match valueFrom fuel t with
        | (item, none) => ([item], none)
        | (item, some rest) =>
          let (items, rest) := itemsFrom fuel false rest
          (item :: items, rest)

/-- The members of an object up to its end.  `first` says that no member was read yet. -/
def membersFrom : Nat → Bool → Text → List (Json × Json) × Option Text
  | 0, _, _ => ([(.broken, .broken)], none)
  | fuel + 1, first, t =>
    match skipBlanks t with
    | '}' :: rest => ([], some rest)
    | t =>
      match if first then some t else Text.afterLead? [','] t with
      | none => ([(.broken, .broken)], none)
      | some t =>
        match valueFrom fuel t with
        | (name, none) => ([(name, .broken)], none)
        | (name, some rest) =>
          match name.isText, skipBlanks rest with
          | true, ':' :: rest =>
            match valueFrom fuel rest with
            | (value, none) => ([(name, value)], none)
            | (value, some rest) =>
              let (members, rest) := membersFrom fuel false rest
              ((name, value) :: members, rest)
          | _, _ => ([(name, .broken)], none)

end

/-- Reads the value at the beginning of a text. -/
def read (t : Text) : Reading := valueFrom (2 * t.length + 2) t

end Json
end ExprMigration
