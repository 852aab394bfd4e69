import ExprMigration.Text.Basic
import ExprMigration.Text.Range

/-!
# Blanks

The characters with the Unicode property `White_Space`, and texts without blanks at their ends.
-/

namespace ExprMigration
namespace Text

/-- The code points with the property `White_Space`. -/
def blankRanges : CodeRanges :=
  [(0x9, 0xD), (0x20, 0x20), (0x85, 0x85), (0xA0, 0xA0), (0x1680, 0x1680), (0x2000, 0x200A),
   (0x2028, 0x2029), (0x202F, 0x202F), (0x205F, 0x205F), (0x3000, 0x3000)]

/-- Whether a character is a blank. -/
def isBlank (c : Char) : Bool := blankRanges.holds c

/-- A text without the blanks at its beginning. -/
def trimStart (t : Text) : Text := t.dropWhile isBlank

/-- A text without the blanks at its end. -/
def trimEnd (t : Text) : Text := (t.reverse.dropWhile isBlank).reverse

/-- A text without the blanks at both ends. -/
def trim (t : Text) : Text := trimEnd (trimStart t)

/-- The items of a list that is written with a separator: without the blanks around them, and
without the empty ones. -/
def items (sep : Char) (t : Text) : List Text := ((splitOn sep t).map trim).filter (· ≠ [])

end Text
end ExprMigration
