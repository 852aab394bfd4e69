import ExprMigration.Text.Basic

/-!
# Places in a YAML text

A cursor is the rest of a text with the line and the column at which it begins.  This module also
holds the characters that have a meaning on every level of YAML: blanks, line breaks, and the marks
that begin and end a document.
-/

namespace ExprMigration
namespace Yaml

/-! ## Characters -/

/-- Whether a character may stand in a YAML text. -/
def isAllowed (c : Char) : Bool :=
  let n := c.toNat
  n == 0x9 || n == 0xA || n == 0xD || (0x20 ≤ n && n ≤ 0x7E) || n == 0x85 ||
    (0xA0 ≤ n && n ≤ 0xFFFD) || 0x10000 ≤ n

/-- A text in which every line ends with a line feed, whichever way its end was written.  The line
and paragraph separators of Unicode stay as they are. -/
def withLineFeeds : Text → Text
  | [] => []
  | '\r' :: '\n' :: rest => '\n' :: withLineFeeds rest
  | c :: rest => (if c = '\r' ∨ c = '\x85' then '\n' else c) :: withLineFeeds rest

/-- Whether a character is a blank within a line. -/
def isBlank (c : Char) : Bool := c == ' ' || c == '\t'

/-- Whether a character ends a line. -/
def isBreak (c : Char) : Bool := c == '\n' || c == '\u2028' || c == '\u2029'

/-- Whether a text is at its end, at a blank or at the end of a line. -/
def atGap : Text → Bool
  | [] => true
  | c :: _ => isBlank c || isBreak c

/-- Whether a text is at its end or at the end of a line. -/
def atLineEnd : Text → Bool
  | [] => true
  | c :: _ => isBreak c

/-- Whether a character may stand in a name. -/
def isNameChar (c : Char) : Bool :=
  ('a' ≤ c && c ≤ 'z') || ('A' ≤ c && c ≤ 'Z') || ('0' ≤ c && c ≤ '9') || c == '_' || c == '-'

/-! ## Cursors -/

/-- A place in a text. -/
structure Cursor where
  /-- What is still to be read. -/
  rest : Text
  line : Nat
  column : Nat
deriving Repr, DecidableEq

namespace Cursor

/-- The place behind some characters of the line. -/
def skip (cursor : Cursor) (count : Nat) : Cursor :=
  { cursor with rest := cursor.rest.drop count, column := cursor.column + count }

/-- The place on the line at which a shorter rest begins. -/
def upTo (cursor : Cursor) (rest : Text) : Cursor :=
  { cursor with rest, column := cursor.column + (cursor.rest.length - rest.length) }

/-- The place behind the line break at which the cursor stands. -/
def newLine (cursor : Cursor) : Cursor :=
  { rest := cursor.rest.drop 1, line := cursor.line + 1, column := 0 }

/-- Whether one of the marks of a document stands at a place: three of a character at the beginning
of a line, and nothing right behind them. -/
def atMark (cursor : Cursor) (c : Char) : Bool :=
  cursor.column == 0 && match Text.afterLead? [c, c, c] cursor.rest with
    | some rest => atGap rest
    | none => false

/-- Whether a document begins or ends at a place. -/
def atDocumentMark (cursor : Cursor) : Bool := cursor.atMark '-' || cursor.atMark '.'

end Cursor

/-! ## Gaps -/

/-- What stands between two words of a scalar: blanks on a line, or line breaks and the blanks
around them. -/
structure Gap where
  blanks : Text
  breaks : Text
  /-- Whether a line ended in the gap. -/
  broken : Bool
deriving Repr, DecidableEq

namespace Gap

/-- No gap. -/
def none : Gap := ⟨[], [], false⟩

/-- The gap at the end of a line whose break does not count. -/
def escaped : Gap := ⟨[], [], true⟩

/-- What a gap stands for: blanks stand for themselves, a single line break for a space, and of
several line breaks the first one is dropped. -/
def folded (gap : Gap) : Text :=
  match gap.breaks with
  | [] => gap.blanks
  | ['\n'] => [' ']
  | '\n' :: more => more
  | breaks => breaks

/-- What a gap behind an escaped line break stands for. -/
def unfolded (gap : Gap) : Text := gap.blanks ++ gap.breaks

end Gap

/-- Reads on in a gap.  A tab at the beginning of a line has to stand at column `least` at
least. -/
def gapFrom (least : Nat) (line column : Nat) (gap : Gap) : Text → Option (Gap × Cursor)
  | [] => some (gap, ⟨[], line, column⟩)
  | c :: rest =>
    if isBlank c then
      if gap.broken ∧ column < least ∧ c = '\t' then none
      else
        gapFrom least line (column + 1)
          (if gap.broken then gap else { gap with blanks := gap.blanks ++ [c] }) rest
    else if isBreak c then
      gapFrom least (line + 1) 0 ⟨[], gap.breaks ++ [c], true⟩ rest
    else some (gap, ⟨c :: rest, line, column⟩)

/-- Reads the gap at a place. -/
def Cursor.gap? (cursor : Cursor) (least : Nat) (start : Gap) : Option (Gap × Cursor) :=
  gapFrom least cursor.line cursor.column start cursor.rest

end Yaml
end ExprMigration
