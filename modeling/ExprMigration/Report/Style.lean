import ExprMigration.Text.Basic

/-!
# Styled texts

Texts in colour, for a terminal that shows colours.
-/

namespace ExprMigration

/-- The styles of a report. -/
inductive Style where
  | success
  | warning
  | note
deriving Repr, DecidableEq

namespace Style

/-- The numbers that turn a style on. -/
def codes : Style → String
  | .success => "32"
  | .warning => "33"
  | .note => "1;36"

/-- What turns a style on. -/
def on (style : Style) : Text := "\x1B[".toList ++ style.codes.toList ++ ['m']

/-- What turns every style off. -/
def off : Text := "\x1B[0m".toList

/-- A text in a style, or as it is if colours are off.  Where the text itself turns styles off, the
style is turned on again. -/
def paint (style : Style) (colour : Bool) (t : Text) : Text :=
  if colour then style.on ++ Text.replaceAll off (off ++ style.on) t ++ off else t

/-- A mark and a text behind it, both in a style. -/
def paintMarked (style : Style) (colour : Bool) (mark : Char) (t : Text) : Text :=
  style.paint colour [mark] ++ ' ' :: style.paint colour t ++ ['\n']

end Style
end ExprMigration
