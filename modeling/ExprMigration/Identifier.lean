import ExprMigration.Text.Blank
import ExprMigration.Text.Case

/-!
# Identifiers

The identifier that stands for a free-form name, in camel case.  The name is trimmed and
lower-cased first.  Of the result only ASCII letters and digits are kept; a letter right behind a
digit or a separator is raised to upper case, and an underscore guards a leading digit.
-/

namespace ExprMigration
namespace Identifier

/-- A character that separates two words of a name. -/
def isSeparator (c : Char) : Bool := c == '_' || c == ' ' || c == '-' || c == '.'

/-- The letters and digits of a lower-case name.  `raise` says whether a letter in first place is
raised. -/
def camelFrom (raise : Bool) : Text → Text
  | [] => []
  | c :: cs =>
    if c.isAlpha then (if raise then c.toUpper else c) :: camelFrom false cs
    else if c.isDigit then c :: camelFrom true cs
    else camelFrom (isSeparator c) cs

/-- The guard in front of a name that begins with a digit. -/
def guardFor : Text → Text
  | [] => []
  | c :: _ => if c.isDigit then ['_'] else []

/-- The identifier for a name. -/
def ofName (name : Text) : Text :=
  let plain := Text.lower (Text.trim name)
  guardFor plain ++ camelFrom false plain

end Identifier
end ExprMigration
