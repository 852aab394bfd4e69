import ExprMigration.Text.Basic

/-!
# Glob patterns

Patterns for paths: `?` stands for any character, `*` for any run of characters, `**` for whole
directories, `[…]` and `[!…]` for one character in or outside a set, and every other character for
itself.  A slash is a character like any other, except that `**` has to be a whole part of the
pattern.
-/

namespace ExprMigration
namespace Glob

/-! ## Patterns -/

/-- A member of a character set. -/
inductive Span where
  | one (c : Char)
  | range (first last : Char)
deriving Repr, DecidableEq

/-- Whether a character is in the span. -/
def Span.holds : Span → Char → Bool
  | .one d, c => c == d
  | .range first last, c => first ≤ c && c ≤ last

/-- A piece of a pattern. -/
inductive Piece where
  | exactly (c : Char)
  | anyChar
  /-- Any run of characters. -/
  | anyRun
  /-- Any run of directories, or all that is left. -/
  | anyDirectories
  | within (spans : List Span)
  | outside (spans : List Span)
deriving Repr, DecidableEq

/-- A pattern is a sequence of pieces. -/
abbrev Pattern := List Piece

/-! ## Reading a pattern -/

/-- What is wrong with a pattern. -/
inductive Flaw where
  /-- Three or more stars in a row. -/
  | wildcards
  /-- Two stars that are not a whole part of the pattern. -/
  | recursive
  /-- A character set without an end. -/
  | range
deriving Repr, DecidableEq

/-- A flaw and the number of characters before it. -/
structure PatternError where
  position : Nat
  flaw : Flaw
deriving Repr, DecidableEq

/-- The words for a flaw. -/
def Flaw.message : Flaw → Text
  | .wildcards => "wildcards are either regular `*` or recursive `**`".toList
  | .recursive => "recursive wildcards must form a single path component".toList
  | .range => "invalid range pattern".toList

/-- The words for an error in a pattern. -/
def PatternError.message (error : PatternError) : Text :=
  "Pattern syntax error near position ".toList ++ (toString error.position).toList ++
    ": ".toList ++ error.flaw.message

/-- The members of a character set, as they are written. -/
def spans : Text → List Span
  | a :: '-' :: b :: rest => .range a b :: spans rest
  | c :: rest => .one c :: spans rest
  | [] => []

/-- The texts before and behind the first closing bracket. -/
def toBracket? (t : Text) : Option (Text × Text) := Text.cut? [']'] t

/-- A character set and what follows it, read behind the opening bracket.  The first member may be
a closing bracket. -/
def set? : Text → Option (Piece × Text)
  | '!' :: first :: rest =>
    (toBracket? rest).map fun (members, rest) => (.outside (spans (first :: members)), rest)
  | '!' :: _ => none
  | first :: rest =>
    (toBracket? rest).map fun (members, rest) => (.within (spans (first :: members)), rest)
  | [] => none

/-- Reads the pieces of a pattern.  `fuel` bounds the number of pieces, `position` counts the
characters read so far, `last` is the character before the next one and `previous` the piece
before the next one. -/
def piecesFrom : Nat → Nat → Option Char → Option Piece → Text → Except PatternError Pattern
  | 0, _, _, _, _ => .ok []
  | _ + 1, _, _, _, [] => .ok []
  | fuel + 1, position, last, previous, c :: rest =>
    let next (piece : Piece) (width : Nat) (rest : Text) (final : Char) :=
      (piecesFrom fuel (position + width) (some final) (some piece) rest).map (piece :: ·)
    if c = '?' then next .anyChar 1 rest c
    else if c = '*' then
      let stars := 1 + (rest.takeWhile (· == '*')).length
      let behind := rest.dropWhile (· == '*')
      if 2 < stars then .error ⟨position + 2, .wildcards⟩
      else if stars = 2 then
        if position = 0 ∨ last = some '/' then
          match behind with
          | [] => next .anyDirectories 2 [] '*'
          | d :: behind =>
            if d = '/' then
              if previous = some .anyDirectories then
                piecesFrom fuel (position + 3) (some '/') previous behind
              else next .anyDirectories 3 behind '/'
            else .error ⟨position + 2, .recursive⟩
        else .error ⟨position - 1, .recursive⟩
      else next .anyRun 1 rest c
    else if c = '[' then
      match set? rest with
      | some (piece, behind) => next piece (1 + rest.length - behind.length) behind ']'
      | none => .error ⟨position, .range⟩
    else next (.exactly c) 1 rest c

/-- The pattern that a text writes. -/
def parse (t : Text) : Except PatternError Pattern := piecesFrom (t.length + 1) 0 none none t

/-! ## Matching -/

/-- Whether a piece that stands for a single character stands for this one. -/
def Piece.admits : Piece → Char → Bool
  | .exactly d, c => c == d
  | .anyChar, _ => true
  | .within spans, c => spans.any (·.holds c)
  | .outside spans, c => !spans.any (·.holds c)
  | .anyRun, _ | .anyDirectories, _ => false

/-- Whether some end of a text passes a test. -/
def anyEnd (test : Text → Bool) : Text → Bool
  | [] => test []
  | c :: rest => test (c :: rest) || anyEnd test rest

/-- Whether some end of a text that begins right behind a slash, or the empty end, passes a
test. -/
def anyEndBehindSlash (test : Text → Bool) : Text → Bool
  | [] => test []
  | c :: rest => (c == '/' && test rest) || anyEndBehindSlash test rest

/-- Whether a pattern stands for a whole text. -/
def accepts : Pattern → Text → Bool
  | [], t => t.isEmpty
  | .anyRun :: pattern, t => anyEnd (accepts pattern) t
  | .anyDirectories :: pattern, t => accepts pattern t || anyEndBehindSlash (accepts pattern) t
  | _ :: _, [] => false
  | piece :: pattern, c :: rest => piece.admits c && accepts pattern rest

end Glob
end ExprMigration
