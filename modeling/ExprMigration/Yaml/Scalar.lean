import ExprMigration.Text.Digits
import ExprMigration.Yaml.Cursor

/-!
# Scalars of YAML

The texts of plain, quoted and block scalars.  A reader starts at the first character of a scalar,
or right behind its opening quote or the sign of a block, and ends behind the scalar; it returns
nothing if the scalar is not well formed.
-/

namespace ExprMigration
namespace Yaml

/-! ## Plain scalars -/

/-- A character that ends a plain scalar within brackets. -/
def isBracketSign (c : Char) : Bool :=
  c == ',' || c == '[' || c == ']' || c == '\x7b' || c == '\x7d'

/-- A word of a plain scalar and the rest behind it.  `flow` says that the scalar stands within
brackets. -/
def plainWord (flow : Bool) : Text → Option (Text × Text)
  | [] => some ([], [])
  | c :: rest =>
    if isBlank c || isBreak c then some ([], c :: rest)
    else if flow && c == ':' && (rest.head?.any fun d => isBracketSign d || d == '?') then none
    else if (c == ':' && atGap rest) || (flow && isBracketSign c) then some ([], c :: rest)
    else (plainWord flow rest).map fun (word, rest) => (c :: word, rest)

/-- A plain scalar that was read. -/
structure PlainReading where
  value : Text
  cursor : Cursor
  /-- Whether a line ended between the scalar and the cursor. -/
  broken : Bool
deriving Repr

/-- Reads on in a plain scalar whose text so far is `value`, behind a gap.  Outside of brackets a
new line has to begin at column `least` at least. -/
def plainFrom (flow : Bool) (least : Nat) : Nat → Cursor → Text → Gap → Option PlainReading
  | 0, _, _, _ => none
  | fuel + 1, cursor, value, gap =>
    if cursor.atDocumentMark ∨ cursor.rest.head? = some '#' then some ⟨value, cursor, gap.broken⟩
    else
      match plainWord flow cursor.rest with
      | none => none
      | some ([], _) => some ⟨value, cursor, gap.broken⟩
      | some (word, rest) =>
        let value := value ++ gap.folded ++ word
        match (cursor.upTo rest).gap? least .none with
        | none => none
        | some (gap, behind) =>
          if gap = .none then some ⟨value, behind, false⟩
          else if ¬ flow ∧ behind.column < least then some ⟨value, behind, gap.broken⟩
          else plainFrom flow least fuel behind value gap

/-- Reads a plain scalar. -/
def plain? (flow : Bool) (least : Nat) (cursor : Cursor) : Option PlainReading :=
  plainFrom flow least (cursor.rest.length + 1) cursor [] .none

/-! ## Quoted scalars -/

/-- The character whose code point some hexadecimal digits at the beginning of a text write. -/
def codePoint? (count : Nat) (t : Text) : Option Char :=
  if t.length < count then none
  else
    match Text.ofDigits? 16 (t.take count) with
    | none => none
    | some n => if n.isValidChar then some (Char.ofNat n) else none

/-- The number of hexadecimal digits behind an escape letter. -/
def codeLength? : Char → Option Nat
  | 'x' => some 2
  | 'u' => some 4
  | 'U' => some 8
  | _ => none

/-- What an escape letter stands for. -/
def escaped? : Char → Option Char
  | '0' => some '\x00'
  | 'a' => some '\x07'
  | 'b' => some '\x08'
  | 't' => some '\t'
  | '\t' => some '\t'
  | 'n' => some '\n'
  | 'v' => some '\x0B'
  | 'f' => some '\x0C'
  | 'r' => some '\r'
  | 'e' => some '\x1B'
  | ' ' => some ' '
  | '"' => some '"'
  | '/' => some '/'
  | '\\' => some '\\'
  | 'N' => some '\x85'
  | '_' => some '\xA0'
  | 'L' => some '\u2028'
  | 'P' => some '\u2029'
  | _ => none

/-- What comes behind a run of characters in a quoted scalar. -/
inductive RunEnd where
  | quote
  | gap
  /-- A line break behind a backslash. -/
  | escapedBreak
deriving Repr, DecidableEq

/-- The characters of a scalar in single quotes up to the next gap or the end. -/
def singleRun : Text → Text × RunEnd × Text
  | [] => ([], .gap, [])
  | '\'' :: '\'' :: rest =>
    let (run, stop, rest) := singleRun rest
    ('\'' :: run, stop, rest)
  | c :: rest =>
    if c = '\'' then ([], .quote, c :: rest)
    else if isBlank c || isBreak c then ([], .gap, c :: rest)
    else
      let (run, stop, rest) := singleRun rest
      (c :: run, stop, rest)

/-- The characters of a scalar in double quotes up to the next gap, an escaped line break or the
end.  `skip` counts characters that belong to an escape that was read before. -/
def doubleRun (skip : Nat) : Text → Option (Text × RunEnd × Text)
  | [] => some ([], .gap, [])
  | c :: rest =>
    match skip with
    | skip + 1 => doubleRun skip rest
    | 0 =>
      if c = '"' then some ([], .quote, c :: rest)
      else if isBlank c || isBreak c then some ([], .gap, c :: rest)
      else if c = '\\' then
        match rest with
        | [] => none
        | d :: code =>
          if isBreak d then some ([], .escapedBreak, c :: rest)
          else
            match codeLength? d with
            | some count =>
              match codePoint? count code with
              | none => none
              | some e =>
                (doubleRun (count + 1) rest).map fun (run, stop, rest) => (e :: run, stop, rest)
            | none =>
              match escaped? d with
              | none => none
              | some e => (doubleRun 1 rest).map fun (run, stop, rest) => (e :: run, stop, rest)
      else (doubleRun 0 rest).map fun (run, stop, rest) => (c :: run, stop, rest)

/-- Reads on in a quoted scalar whose text so far is `value`.  Returns the text and the place behind
the closing quote. -/
def quotedFrom (single : Bool) : Nat → Cursor → Text → Option (Text × Cursor)
  | 0, _, _ => none
  | fuel + 1, cursor, value =>
    if cursor.atDocumentMark ∨ cursor.rest = [] then none
    else
      match if single then some (singleRun cursor.rest) else doubleRun 0 cursor.rest with
      | none => none
      | some (run, .quote, rest) => some (value ++ run, (cursor.upTo rest).skip 1)
      | some (run, .gap, rest) =>
        match (cursor.upTo rest).gap? 0 .none with
        | none => none
        | some (gap, behind) => quotedFrom single fuel behind (value ++ run ++ gap.folded)
      | some (run, .escapedBreak, rest) =>
        match ((cursor.upTo rest).skip 1).newLine.gap? 0 .escaped with
        | none => none
        | some (gap, behind) => quotedFrom single fuel behind (value ++ run ++ gap.unfolded)

/-- Reads a quoted scalar, from behind its opening quote. -/
def quoted? (single : Bool) (cursor : Cursor) : Option (Text × Cursor) :=
  quotedFrom single (cursor.rest.length + 1) cursor []

/-! ## Block scalars -/

/-- What a block scalar does with the line breaks at its end. -/
inductive Chomping where
  | strip
  | clip
  | keep
deriving Repr, DecidableEq

/-- The choices behind the sign of a block scalar. -/
structure BlockHeader where
  chomping : Chomping
  /-- By how much the block is indented, if that is said. -/
  increment : Option Nat
deriving Repr, DecidableEq

/-- The sign for the treatment of line breaks. -/
def chomping? : Text → Option (Chomping × Text)
  | '+' :: rest => some (.keep, rest)
  | '-' :: rest => some (.strip, rest)
  | _ => none

/-- The digit for the indentation, if there is one; a zero is a fault. -/
def increment? : Text → Option (Option Nat × Text)
  | c :: rest =>
    if c = '0' then none
    else if c.isDigit then some (some (Text.digitValue c), rest)
    else some (none, c :: rest)
  | [] => some (none, [])

/-- The choices of a block scalar, in either order, and the rest of the text. -/
def blockHeader? (t : Text) : Option (BlockHeader × Text) :=
  match chomping? t with
  | some (chomping, rest) =>
    (increment? rest).map fun (increment, rest) => (⟨chomping, increment⟩, rest)
  | none =>
    match increment? t with
    | none => none
    | some (none, rest) => some (⟨.clip, none⟩, rest)
    | some (some increment, rest) =>
      match chomping? rest with
      | some (chomping, rest) => some (⟨chomping, some increment⟩, rest)
      | none => some (⟨.clip, some increment⟩, rest)

/-- The place at the end of the line, behind blanks and a comment; nothing else may stand there. -/
def Cursor.lineEnd? (cursor : Cursor) : Option Cursor :=
  let behind := cursor.upTo (cursor.rest.dropWhile isBlank)
  let behind :=
    if behind.rest.head? = some '#' then behind.upTo (behind.rest.dropWhile (!isBreak ·))
    else behind
  if atLineEnd behind.rest then some behind else none

/-- The place behind the line break, if there is one. -/
def Cursor.pastBreak (cursor : Cursor) : Cursor :=
  if cursor.rest = [] then cursor else cursor.newLine

/-- The empty lines and the indentation in front of a line of a block scalar. -/
structure Indentation where
  breaks : Text
  /-- The column of the farthest place met. -/
  deepest : Nat
  cursor : Cursor
deriving Repr

/-- Reads on in the empty lines and the indentation of a block scalar.  The column of the block is
`indent`, if it is known; a tab may not stand before it. -/
def indentationFrom (indent : Option Nat) (line column : Nat) (breaks : Text) (deepest : Nat) :
    Text → Option Indentation
  | [] => some ⟨breaks, max deepest column, ⟨[], line, column⟩⟩
  | c :: rest =>
    let outside := indent.all (column < ·)
    if outside && c == ' ' then indentationFrom indent line (column + 1) breaks deepest rest
    else if outside && c == '\t' then none
    else if isBreak c then
      indentationFrom indent (line + 1) 0 (breaks ++ [c]) (max deepest column) rest
    else some ⟨breaks, max deepest column, ⟨c :: rest, line, column⟩⟩

/-- The empty lines and the indentation at a place. -/
def Cursor.indentation? (cursor : Cursor) (indent : Option Nat) : Option Indentation :=
  indentationFrom indent cursor.line cursor.column [] 0 cursor.rest

/-- A block scalar in which some lines were read. -/
structure BlockSoFar where
  value : Text
  /-- The break at the end of the last line. -/
  lastBreak : Text
  /-- The breaks of the empty lines behind it. -/
  emptyLines : Text
  /-- Whether the last line begins with a blank. -/
  blankStart : Bool
deriving Repr

/-- What stands between the last line and a new line.  In a folded block the break between two lines
that do not begin with a blank is dropped, or becomes a space if no empty line follows. -/
def BlockSoFar.between (block : BlockSoFar) (literal blankStart : Bool) : Text :=
  if ¬ literal ∧ block.lastBreak = ['\n'] ∧ ¬ block.blankStart ∧ ¬ blankStart then
    (if block.emptyLines = [] then [' '] else block.emptyLines)
  else block.lastBreak ++ block.emptyLines

/-- The text of a block scalar. -/
def BlockSoFar.chomped (block : BlockSoFar) : Chomping → Text
  | .strip => block.value
  | .clip => block.value ++ block.lastBreak
  | .keep => block.value ++ block.lastBreak ++ block.emptyLines

/-- Reads the lines of a block scalar whose column is `indent`. -/
def blockLines (literal : Bool) (indent : Nat) :
    Nat → Cursor → BlockSoFar → Option (BlockSoFar × Cursor)
  | 0, _, _ => none
  | fuel + 1, cursor, block =>
    if cursor.column ≠ indent ∨ cursor.rest = [] then some (block, cursor)
    else
      let blankStart := cursor.rest.head?.any isBlank
      let text := cursor.rest.takeWhile (!isBreak ·)
      let lineEnd := cursor.skip text.length
      match lineEnd.pastBreak.indentation? (some indent) with
      | none => none
      | some indentation =>
        blockLines literal indent fuel indentation.cursor
          { value := block.value ++ block.between literal blankStart ++ text
            lastBreak := lineEnd.rest.take 1
            emptyLines := indentation.breaks
            blankStart }

/-- Reads a block scalar, from behind its sign, below a block that is indented to column
`outer`. -/
def block? (literal : Bool) (outer : Int) (cursor : Cursor) : Option (Text × Cursor) := do
  let (header, rest) ← blockHeader? cursor.rest
  let start := (← (cursor.upTo rest).lineEnd?).pastBreak
  let indent := header.increment.map fun increment => (max outer 0).toNat + increment
  let indentation ← start.indentation? indent
  let indent := indent.getD (max indentation.deepest (max (outer + 1) 1).toNat)
  let (block, cursor) ← blockLines literal indent (start.rest.length + 1) indentation.cursor
    ⟨[], [], indentation.breaks, false⟩
  return (block.chomped header.chomping, cursor)

end Yaml
end ExprMigration
