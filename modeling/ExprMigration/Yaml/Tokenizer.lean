import ExprMigration.Yaml.Scalar
import ExprMigration.Yaml.Token

/-!
# The tokens of a YAML text

Whether a scalar is a key shows only at the colon behind it.  So a token that may begin a key is
held back until the colon comes or can no longer come; a colon puts the tokens of the key in front
of it.  A key has to end on its line and within 1024 characters.

`tokens` returns the tokens of a text up to the first fault, without those that were held back
there.  A text without a fault ends with the token `streamEnd`.
-/

namespace ExprMigration
namespace Yaml

/-! ## The state -/

/-- A token that may begin a key. -/
structure PossibleKey where
  /-- The number of tokens before it. -/
  number : Nat
  line : Nat
  column : Nat
  /-- Whether nothing but a key may stand there. -/
  required : Bool
deriving Repr, DecidableEq

/-- The tokens read so far and the place behind them. -/
structure Tokenizer where
  cursor : Cursor
  /-- The tokens, the last one first. -/
  tokens : List Token
  /-- The column of the present block; `-1` outside of all blocks. -/
  indent : Int
  /-- The columns of the blocks around the present one. -/
  outer : List Int
  /-- The token that may begin a key, for the present level of brackets. -/
  pending : Option PossibleKey
  /-- The same for the brackets around it. -/
  outerPending : List (Option PossibleKey)
  /-- Whether the next token may begin a key. -/
  keyAllowed : Bool
deriving Repr

namespace Tokenizer

/-- The state at the beginning of a text.  A byte order mark in first place takes a column. -/
def start (t : Text) : Tokenizer :=
  let cursor : Cursor := match t with
    | '\uFEFF' :: rest => ⟨rest, 0, 1⟩
    | t => ⟨t, 0, 0⟩
  ⟨cursor, [], -1, [], none, [], true⟩

/-- Whether the cursor is within brackets. -/
def inFlow (s : Tokenizer) : Bool := !s.outerPending.isEmpty

/-- Adds a token. -/
def push (s : Tokenizer) (token : Token) : Tokenizer := { s with tokens := token :: s.tokens }

/-- Puts a token in front of the token with a number. -/
def pushAt (s : Tokenizer) (number : Nat) (token : Token) : Tokenizer :=
  { s with tokens := s.tokens.insertIdx (s.tokens.length - number) token }

/-- Moves on over some characters of the line. -/
def skip (s : Tokenizer) (count : Nat) : Tokenizer := { s with cursor := s.cursor.skip count }

/-! ## Blocks -/

/-- Closes the blocks that are indented farther than a column, at most `fuel` of them. -/
def closeFrom (column : Int) : Nat → Tokenizer → Tokenizer
  | 0, s => s
  | fuel + 1, s =>
    if column < s.indent then
      closeFrom column fuel
        { s.push .blockEnd with indent := s.outer.headD (-1), outer := s.outer.drop 1 }
    else s

/-- Closes the blocks that are indented farther than a column.  Within brackets columns have no
meaning. -/
def close (s : Tokenizer) (column : Int) : Tokenizer :=
  if s.inFlow then s else closeFrom column (s.outer.length + 1) s

/-- Opens a block at a column, unless the present block is as far indented; `opener` puts the token
for it. -/
def openBlock (s : Tokenizer) (column : Nat) (opener : Tokenizer → Tokenizer) : Tokenizer :=
  if s.inFlow ∨ (column : Int) ≤ s.indent then s
  else { opener s with indent := column, outer := s.indent :: s.outer }

/-! ## Keys -/

/-- Gives up the token that may begin a key; a fault if it had to. -/
def dropKey (s : Tokenizer) : Option Tokenizer :=
  match s.pending with
  | some key => if key.required then none else some { s with pending := none }
  | none => some s

/-- Notes that the next token may begin a key, where one is allowed. -/
def noteKey (s : Tokenizer) : Option Tokenizer :=
  if s.keyAllowed then
    let key : PossibleKey :=
      { number := s.tokens.length
        line := s.cursor.line
        column := s.cursor.column
        required := !s.inFlow && s.indent == s.cursor.column }
    s.dropKey.map ({ · with pending := some key })
  else some s

/-- A possible key, if it can still be one at a place; a fault if it had to. -/
def freshKey? (cursor : Cursor) : Option PossibleKey → Option (Option PossibleKey)
  | none => some none
  | some key =>
    if key.line < cursor.line ∨ key.column + 1024 < cursor.column then
      if key.required then none else some none
    else some (some key)

/-- Gives up the possible keys that can no longer be keys. -/
def dropStale (s : Tokenizer) : Option Tokenizer := do
  let pending ← freshKey? s.cursor s.pending
  let outerPending ← s.outerPending.mapM (freshKey? s.cursor)
  return { s with pending, outerPending }

/-! ## Blanks and comments -/

/-- Moves on to the next token, over blanks, comments and line breaks.  Outside of brackets a tab
may not stand where a key may begin, and a key may begin on every new line. -/
def toToken : Nat → Tokenizer → Tokenizer
  | 0, s => s
  | fuel + 1, s =>
    let isSkipped (c : Char) : Bool := c == ' ' || (c == '\t' && (s.inFlow || !s.keyAllowed))
    let cursor := s.cursor.upTo (s.cursor.rest.dropWhile isSkipped)
    let cursor :=
      if cursor.rest.head? = some '#' then cursor.upTo (cursor.rest.dropWhile (!isBreak ·))
      else cursor
    if cursor.rest.head?.any isBreak then
      toToken fuel { s with cursor := cursor.newLine, keyAllowed := !s.inFlow || s.keyAllowed }
    else { s with cursor }

/-! ## Single tokens -/

/-- The end of the text.  It counts as the end of a line. -/
def readStreamEnd (s : Tokenizer) : Option Tokenizer := do
  let s :=
    if s.cursor.column = 0 then s
    else { s with cursor := { s.cursor with line := s.cursor.line + 1, column := 0 } }
  let s ← (s.close (-1)).dropKey
  return { s with keyAllowed := false }.push .streamEnd

/-- A directive. -/
def readDirective (s : Tokenizer) : Option Tokenizer := do
  let s ← (s.close (-1)).dropKey
  let (token, rest) ← directive? (s.cursor.rest.drop 1)
  let lineEnd ← (s.cursor.upTo rest).lineEnd?
  return { s with cursor := lineEnd.pastBreak, keyAllowed := false }.push token

/-- The mark at the beginning or the end of a document. -/
def readMark (s : Tokenizer) (token : Token) : Option Tokenizer := do
  let s ← (s.close (-1)).dropKey
  return ({ s with keyAllowed := false }.skip 3).push token

/-- An opening bracket. -/
def readOpening (s : Tokenizer) (token : Token) : Option Tokenizer := do
  let s ← s.noteKey
  return ({ s with pending := none, outerPending := s.pending :: s.outerPending,
                   keyAllowed := true }.skip 1).push token

/-- A closing bracket. -/
def readClosing (s : Tokenizer) (token : Token) : Option Tokenizer := do
  let s ← s.dropKey
  let s := match s.outerPending with
    | [] => s
    | pending :: rest => { s with pending, outerPending := rest }
  return ({ s with keyAllowed := false }.skip 1).push token

/-- A comma within brackets. -/
def readComma (s : Tokenizer) : Option Tokenizer := do
  let s ← s.dropKey
  return ({ s with keyAllowed := true }.skip 1).push .flowEntry

/-- Opens a block for an entry that begins at the cursor with a dash, a question mark or a colon.
Outside of brackets an entry may begin only where a key may begin. -/
def openEntry (s : Tokenizer) (block : Token) : Option Tokenizer :=
  if s.inFlow then some s
  else if s.keyAllowed then some (s.openBlock s.cursor.column (·.push block))
  else none

/-- A dash. -/
def readDash (s : Tokenizer) : Option Tokenizer := do
  let s ← s.openEntry .blockSequenceStart
  let s ← s.dropKey
  return ({ s with keyAllowed := true }.skip 1).push .blockEntry

/-- A question mark in front of a key. -/
def readKeySign (s : Tokenizer) : Option Tokenizer := do
  let s ← s.openEntry .blockMappingStart
  let s ← s.dropKey
  return ({ s with keyAllowed := !s.inFlow }.skip 1).push .key

/-- A colon in front of a value. -/
def readColon (s : Tokenizer) : Option Tokenizer :=
  match s.pending with
  | some key =>
    let s := s.pushAt key.number .key
    let s := s.openBlock key.column (·.pushAt key.number .blockMappingStart)
    some (({ s with pending := none, keyAllowed := false }.skip 1).push .value)
  | none => do
    let s ← s.openEntry .blockMappingStart
    return ({ s with keyAllowed := !s.inFlow }.skip 1).push .value

/-- A token that may begin a key: `read` reads it. -/
def readKeyPart (s : Tokenizer) (read : Tokenizer → Option Tokenizer) : Option Tokenizer := do
  let s ← s.noteKey
  read { s with keyAllowed := false }

/-- A token on the line, from behind a sign of `width` characters. -/
def readOnLine (s : Tokenizer) (width : Nat) (read : Text → Option (Token × Text)) :
    Option Tokenizer :=
  (read (s.cursor.rest.drop width)).map fun (token, rest) =>
    { s with cursor := s.cursor.upTo rest }.push token

/-- A block scalar. -/
def readBlock (s : Tokenizer) (literal : Bool) : Option Tokenizer := do
  let s ← s.dropKey
  let (text, cursor) ← block? literal s.indent (s.cursor.skip 1)
  return { s with cursor, keyAllowed := true }.push (.scalar text false)

/-- A quoted scalar. -/
def readQuoted (single : Bool) (s : Tokenizer) : Option Tokenizer :=
  (quoted? single (s.cursor.skip 1)).map fun (text, cursor) =>
    { s with cursor }.push (.scalar text false)

/-- A plain scalar.  A key may begin behind it if a line ended there. -/
def readPlain (s : Tokenizer) : Option Tokenizer :=
  (plain? s.inFlow (s.indent + 1).toNat s.cursor).map fun reading =>
    { s with cursor := reading.cursor, keyAllowed := reading.broken }.push
      (.scalar reading.value true)

/-! ## All tokens -/

/-- Whether a plain scalar may begin with some text. -/
def beginsPlain (flow : Bool) : Text → Bool
  | [] => false
  | c :: rest =>
    if isBlank c || isBreak c then false
    else if c == '-' then !rest.head?.any isBlank
    else if c == '?' || c == ':' then !flow && !atGap rest
    else !",[]\x7b\x7d#&*!|>'\"%@`".toList.contains c

/-- Reads the next token. -/
def readToken (s : Tokenizer) : Option Tokenizer :=
  let flow := s.inFlow
  match s.cursor.rest with
  | [] => s.readStreamEnd
  | c :: rest =>
    if s.cursor.column = 0 ∧ c = '%' then s.readDirective
    else if s.cursor.atMark '-' then s.readMark .documentStart
    else if s.cursor.atMark '.' then s.readMark .documentEnd
    else if c = '[' then s.readOpening .flowSequenceStart
    else if c = '\x7b' then s.readOpening .flowMappingStart
    else if c = ']' then s.readClosing .flowSequenceEnd
    else if c = '\x7d' then s.readClosing .flowMappingEnd
    else if c = ',' then s.readComma
    else if c = '-' ∧ atGap rest then s.readDash
    else if c = '?' ∧ (flow ∨ atGap rest) then s.readKeySign
    else if c = ':' ∧ (flow ∨ atGap rest) then s.readColon
    else if c = '*' then
      s.readKeyPart (·.readOnLine 1 fun t => (anchorName? t).map fun (name, t) => (.alias name, t))
    else if c = '&' then
      s.readKeyPart (·.readOnLine 1 fun t => (anchorName? t).map fun (name, t) => (.anchor name, t))
    else if c = '!' then s.readKeyPart (·.readOnLine 0 (tag? flow))
    else if c = '|' ∧ ¬ flow then s.readBlock true
    else if c = '>' ∧ ¬ flow then s.readBlock false
    else if c = '\'' then s.readKeyPart (readQuoted true)
    else if c = '"' then s.readKeyPart (readQuoted false)
    else if beginsPlain flow (c :: rest) then s.readKeyPart readPlain
    else none

/-- Moves on over the next token. -/
def next (s : Tokenizer) : Option Tokenizer := do
  let s ← (s.toToken (s.cursor.rest.length + 1)).dropStale
  let s ← (s.close s.cursor.column).readToken
  s.dropStale

/-- The tokens that are not held back, in their order. -/
def released (s : Tokenizer) : List Token :=
  let held := (s.pending :: s.outerPending).filterMap (·.map PossibleKey.number)
  s.tokens.reverse.take (held.foldl min s.tokens.length)

/-- The released tokens after reading as many tokens as possible, but at most `fuel`. -/
def run : Nat → Tokenizer → List Token
  | 0, s => s.released
  | fuel + 1, s =>
    if s.tokens.head? = some .streamEnd then s.released
    else
      match s.next with
      | none => s.released
      | some s => run fuel s

end Tokenizer

/-- The tokens of a text. -/
def tokens (t : Text) : List Token :=
  if t.all isAllowed then (Tokenizer.start (withLineFeeds t)).run (t.length + 2) else []

end Yaml
end ExprMigration
