import ExprMigration.Text.Basic

/-!
# JSON values

A value as its text is read from left to right, up to the first place where the text stops being
JSON.  What cannot be read stands as `broken`, and nothing follows it.  Members of an object keep
their order and may repeat a name, so that a reader of records decides about both.
-/

namespace ExprMigration

/-- A JSON value. -/
inductive Json where
  | null
  | bool (value : Bool)
  /-- A number, as it is written. -/
  | number (literal : Text)
  | text (value : Text)
  /-- A text with half of a surrogate pair, which no sequence of characters stands for. -/
  | unpaired
  | array (items : List Json)
  /-- The members, each with what stands before and behind its colon. -/
  | object (members : List (Json × Json))
  /-- A place where no value can be read. -/
  | broken
deriving Repr, Inhabited

namespace Json

/-- Whether a character is a blank between the tokens of a JSON text. -/
def isBlank (c : Char) : Bool := c == ' ' || c == '\t' || c == '\n' || c == '\r'

/-- Whether a value is written as a text, so that it can stand as a name in an object. -/
def isText : Json → Bool
  | .text _ | .unpaired => true
  | _ => false

/-- A member of an object. -/
def member (name : String) (value : Json) : Json × Json := (.text name.toList, value)

end Json
end ExprMigration
