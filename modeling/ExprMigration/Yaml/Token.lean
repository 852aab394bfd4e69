import ExprMigration.Text.Digits
import ExprMigration.Yaml.Cursor

/-!
# Tokens of YAML

The tokens of a YAML text, and the readers of those that stand on a single line: names of anchors,
tags and directives.  A reader returns the token and the rest of the text, or nothing if the token
is not well formed.
-/

namespace ExprMigration
namespace Yaml

/-- A token. -/
inductive Token where
  | streamEnd
  /-- The version of YAML that a document asks for. -/
  | version (major minor : Nat)
  /-- A handle and what it stands for at the beginning of a tag. -/
  | tagHandle (handle stands : Text)
  | documentStart
  | documentEnd
  | blockSequenceStart
  | blockMappingStart
  | blockEnd
  | flowSequenceStart
  | flowSequenceEnd
  | flowMappingStart
  | flowMappingEnd
  | blockEntry
  | flowEntry
  | key
  | value
  | alias (name : Text)
  | anchor (name : Text)
  | tag (handle suffix : Text)
  | scalar (text : Text) (plain : Bool)
deriving Repr, DecidableEq

/-! ## Anchors -/

/-- The name of an anchor.  Behind it there has to be a gap or one of some signs. -/
def anchorName? (t : Text) : Option (Text × Text) :=
  let name := t.takeWhile isNameChar
  let rest := t.dropWhile isNameChar
  if name ≠ [] ∧ (atGap rest ∨ rest.head?.any fun c => "?:,]\x7d%@`".toList.contains c) then
    some (name, rest)
  else none

/-! ## Tags -/

/-- Whether a character may stand in a tag.  `full` says that the tag stands in angle brackets or in
a directive, where some more characters may stand. -/
def isTagChar (full : Bool) (c : Char) : Bool :=
  isNameChar c || ";/?:@&=+$.%!~*'()".toList.contains c || (full && (c == ',' || c == '[' || c == ']'))

/-- The number of bytes of a character in UTF-8, by its first byte. -/
def byteCount? (first : Nat) : Option Nat :=
  if first < 0x80 then some 1
  else if first / 0x20 = 0x6 then some 2
  else if first / 0x10 = 0xE then some 3
  else if first / 0x8 = 0x1E then some 4
  else none

/-- The byte that an escape at the beginning of a text writes, and the rest. -/
def escapedByte? : Text → Option (Nat × Text)
  | '%' :: a :: b :: rest => (Text.ofDigits? 16 [a, b]).map fun byte => (byte, rest)
  | _ => none

/-- The bytes that continue a character. -/
def moreBytes? : Nat → Text → Option (List Nat × Text)
  | 0, t => some ([], t)
  | count + 1, t =>
    match escapedByte? t with
    | none => none
    | some (byte, rest) =>
      if byte / 0x40 = 0x2 then
        (moreBytes? count rest).map fun (bytes, rest) => (byte :: bytes, rest)
      else none

/-- The bytes of an escaped character. -/
def escapedBytes? (t : Text) : Option (List Nat × Text) :=
  match escapedByte? t with
  | none => none
  | some (first, rest) =>
    match byteCount? first with
    | none => none
    | some count =>
      (moreBytes? (count - 1) rest).map fun (bytes, rest) => (first :: bytes, rest)

/-- The characters of a tag and the rest behind them.  An escaped byte stands as the character of
its number. -/
def tagCharsFrom (full : Bool) : Nat → Text → Option (Text × Text)
  | 0, t => some ([], t)
  | _ + 1, [] => some ([], [])
  | fuel + 1, c :: rest =>
    if c = '%' then
      match escapedBytes? (c :: rest) with
      | none => none
      | some (bytes, rest) =>
        (tagCharsFrom full fuel rest).map fun (chars, rest) => (bytes.map Char.ofNat ++ chars, rest)
    else if isTagChar full c then
      (tagCharsFrom full fuel rest).map fun (chars, rest) => (c :: chars, rest)
    else some ([], c :: rest)

/-- The characters of a tag at the beginning of a text. -/
def tagChars? (full : Bool) (t : Text) : Option (Text × Text) := tagCharsFrom full t.length t

/-- The characters of a tag, of which there has to be one. -/
def someTagChars? (full : Bool) (t : Text) : Option (Text × Text) :=
  match tagChars? full t with
  | some ([], _) => none
  | found => found

/-- The beginning of a tag that may be a handle: an exclamation mark, a name, and an exclamation
mark if one follows. -/
def handle? : Text → Option (Text × Text)
  | '!' :: rest =>
    let name := rest.takeWhile isNameChar
    match rest.dropWhile isNameChar with
    | '!' :: rest => some ('!' :: name ++ ['!'], rest)
    | rest => some ('!' :: name, rest)
  | _ => none

/-- Whether the beginning of a tag is a handle. -/
def isHandle (start : Text) : Bool := 1 < start.length && start.getLast? == some '!'

/-- A tag up to its end. -/
def tagBody? (t : Text) : Option (Token × Text) :=
  match t with
  | '!' :: '<' :: rest =>
    match someTagChars? true rest with
    | some (suffix, '>' :: rest) => some (.tag [] suffix, rest)
    | _ => none
  | _ =>
    match handle? t with
    | none => none
    | some (start, rest) =>
      if isHandle start then
        (someTagChars? false rest).map fun (suffix, rest) => (.tag start suffix, rest)
      else
        (tagChars? false rest).map fun (chars, rest) =>
          match start.drop 1 ++ chars with
          | [] => (.tag [] ['!'], rest)
          | suffix => (.tag ['!'] suffix, rest)

/-- A tag.  Behind it there has to be a gap, or within brackets a comma. -/
def tag? (flow : Bool) (t : Text) : Option (Token × Text) :=
  match tagBody? t with
  | none => none
  | some (token, rest) =>
    if atGap rest ∨ flow ∧ rest.head? = some ',' then some (token, rest) else none

/-! ## Directives -/

/-- A number of at most nine digits. -/
def versionNumber? (t : Text) : Option (Nat × Text) :=
  let digits := t.takeWhile Char.isDigit
  if digits ≠ [] ∧ digits.length ≤ 9 then
    some (Text.ofDigits digits, t.dropWhile Char.isDigit)
  else none

/-- The version behind the name of its directive. -/
def version? (t : Text) : Option (Token × Text) :=
  match versionNumber? (t.dropWhile isBlank) with
  | some (major, '.' :: rest) =>
    (versionNumber? rest).map fun (minor, rest) => (.version major minor, rest)
  | _ => none

/-- The handle and its meaning behind the name of their directive. -/
def tagHandle? (t : Text) : Option (Token × Text) :=
  match handle? (t.dropWhile isBlank) with
  | none => none
  | some (handle, rest) =>
    if (isHandle handle ∨ handle = ['!']) ∧ rest.head?.any isBlank then
      match someTagChars? true (rest.dropWhile isBlank) with
      | none => none
      | some (stands, rest) => if atGap rest then some (.tagHandle handle stands, rest) else none
    else none

/-- A directive, from behind its sign. -/
def directive? (t : Text) : Option (Token × Text) :=
  let name := t.takeWhile isNameChar
  let rest := t.dropWhile isNameChar
  if ¬ atGap rest then none
  else if name = "YAML".toList then version? rest
  else if name = "TAG".toList then tagHandle? rest
  else none

end Yaml
end ExprMigration
