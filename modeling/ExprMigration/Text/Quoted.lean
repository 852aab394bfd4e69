import ExprMigration.Text.Classes.Extend
import ExprMigration.Text.Classes.Unprintable
import ExprMigration.Text.Digits

/-!
# Quoted texts

A text as a message shows it: between double quotes, with a backslash form for quotes, backslashes
and every character that has no visible form of its own.
-/

namespace ExprMigration
namespace Text

/-- A character as it stands in a quoted text. -/
def quotedChar (c : Char) : Text :=
  if c = '\x00' then "\\0".toList
  else if c = '\t' then "\\t".toList
  else if c = '\r' then "\\r".toList
  else if c = '\n' then "\\n".toList
  else if c = '\\' then "\\\\".toList
  else if c = '"' then "\\\"".toList
  else if extendRanges.holds c || unprintableRanges.holds c then
    "\\u\x7b".toList ++ hexDigits c.toNat ++ "\x7d".toList
  else [c]

/-- A text between quotes. -/
def quoted (t : Text) : Text := '"' :: t.flatMap quotedChar ++ ['"']

/-- A path between quotes; an apostrophe gets a backslash as well. -/
def quotedPath (t : Text) : Text :=
  '"' :: (t.flatMap fun c => if c = '\'' then "\\'".toList else quotedChar c) ++ ['"']

end Text
end ExprMigration
