import ExprMigration.Json.Basic
import ExprMigration.Text.Quoted

/-!
# Writing JSON

Values are written over several lines, with two spaces for each level, one item or member a line,
and empty arrays and objects without a line of their own.
-/

namespace ExprMigration
namespace Json

/-- A character as it stands in a JSON text. -/
def escapedChar (c : Char) : Text :=
  if c = '"' then "\\\"".toList
  else if c = '\\' then "\\\\".toList
  else if c = '\x08' then "\\b".toList
  else if c = '\x0C' then "\\f".toList
  else if c = '\n' then "\\n".toList
  else if c = '\r' then "\\r".toList
  else if c = '\t' then "\\t".toList
  else if c.toNat < 0x10 then "\\u000".toList ++ Text.hexDigits c.toNat
  else if c.toNat < 0x20 then "\\u00".toList ++ Text.hexDigits c.toNat
  else [c]

/-- A text between quotes. -/
def writeText (t : Text) : Text := '"' :: t.flatMap escapedChar ++ ['"']

/-- The beginning of a line at a level. -/
def newLine (level : Nat) : Text := '\n' :: List.replicate (2 * level) ' '

/-- Written items between brackets, each on a line of its own. -/
def block (level : Nat) (opening closing : Char) (items : List Text) : Text :=
  if items = [] then [opening, closing]
  else
    opening :: Text.join [','] (items.map (newLine (level + 1) ++ ·)) ++ newLine level ++ [closing]

mutual

/-- A value at a level.  A value that stands for no JSON text is written as `null`. -/
def writeAt (level : Nat) : Json → Text
  | .null | .unpaired | .broken => "null".toList
  | .bool value => (if value then "true" else "false").toList
  | .number literal => literal
  | .text value => writeText value
  | .array items => block level '[' ']' (writeItems (level + 1) items)
  | .object members => block level '\x7b' '\x7d' (writeMembers (level + 1) members)

/-- The items of an array. -/
def writeItems (level : Nat) : List Json → List Text
  | [] => []
  | item :: rest => writeAt level item :: writeItems level rest

/-- The members of an object. -/
def writeMembers (level : Nat) : List (Json × Json) → List Text
  | [] => []
  | (name, value) :: rest =>
    (writeAt level name ++ ": ".toList ++ writeAt level value) :: writeMembers level rest

end

/-- A value as a text. -/
def write (value : Json) : Text := writeAt 0 value

end Json
end ExprMigration
