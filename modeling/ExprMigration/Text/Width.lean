import ExprMigration.Text.Basic
import ExprMigration.Text.Classes.Emoji
import ExprMigration.Text.Classes.Extend
import ExprMigration.Text.Classes.Ignorable
import ExprMigration.Text.Classes.Joining
import ExprMigration.Text.Classes.Wide

/-!
# Display width

The number of columns that a text takes on a terminal.  Most characters take one column, wide ones
two, and marks none.  Some sequences take another number of columns than their characters do one by
one: sequences of emoji, and ligatures of several scripts.  A text is therefore measured from its
end to its beginning, with a note of what comes behind the present character.
-/

namespace ExprMigration
namespace Text

/-! ## Single characters -/

/-- Whether the code point of a character lies between two others. -/
def between (first last : Nat) (c : Char) : Bool := first ≤ c.toNat && c.toNat ≤ last

/-- Medial and final letters of Hangul, which join the letter before them. -/
def isJoiningHangul (c : Char) : Bool :=
  between 0x1160 0x11FF c || between 0xD7B0 0xD7C6 c || between 0xD7CB 0xD7FB c

/-- Signs that enclose or precede others and take no column. -/
def isEnclosingSign (c : Char) : Bool :=
  ['\u0605', '\u070F', '\u0890', '\u0891', '\u08E2', '\uA8FA'].contains c

/-- Whether a character takes no column. -/
def isWidthless (c : Char) : Bool :=
  ignorableRanges.holds c || extendRanges.holds c || isJoiningHangul c || isEnclosingSign c

/-- The number of columns of a character by itself. -/
def charWidth (c : Char) : Nat :=
  if c ≤ '\xA0' then 1
  else if c = '\u2D7F' then 1
  else if c = '\u115F' ∨ c = '\u17A4' then 2
  else if c = '\u17D8' then 3
  else if isWidthless c then 0
  else if wideRanges.holds c then 2
  else 1

/-! ## What comes behind a character -/

/-- The beginning of a sequence of which more may stand before it. -/
inductive Following where
  | nothing
  | lineFeed
  /-- A skin tone. -/
  | modifier
  /-- The second letter of a flag. -/
  | flagLetter
  /-- Letters of flags, of which there are at least two. -/
  | flagLetters
  | emoji
  /-- A joiner and an emoji. -/
  | joinedEmoji
  /-- The cap of a key, in front of a joined emoji. -/
  | joinedKeycap
  /-- Letters of flags in front of a joined emoji. -/
  | joinedFlagLetter
  | joinedFlagEven
  | joinedFlagOdd
  /-- The end of a tag in front of a joined emoji, with its letters so far. -/
  | tagLetters (count : Nat)
  /-- The same with its digits so far. -/
  | tagDigits (count : Nat)
  | vowelE
  | vowelAi
  | alef
  | lamed (joined : Bool)
  | ya (joined : Bool)
  /-- The vowel sign in front of a joined ya. -/
  | signBeforeYa
  | tifinagh (joined : Bool)
  /-- The consonant joiner in front of a Tifinagh consonant. -/
  | tifinaghJoiner
  /-- The second part of a combined tone letter. -/
  | tone
  | orkhonI (joined : Bool)
  /-- A letter that becomes a subscript behind a coeng sign. -/
  | coengLetter
deriving Repr, DecidableEq

namespace Following

/-- Whether what follows may be the second part of a ligature. -/
def isLigaturePart : Following → Bool
  | .alef | .lamed _ | .ya _ | .signBeforeYa | .tifinagh _ | .tifinaghJoiner | .tone | .orkhonI _
  | .coengLetter => true
  | _ => false

/-- Whether marks without a visible form may stand in front of it. -/
def isTransparent (following : Following) : Bool := following.isLigaturePart && following != .alef

/-- Whether it is an emoji behind a joiner, with or without a key cap. -/
def isJoinedEmoji : Following → Bool
  | .joinedEmoji | .joinedKeycap => true
  | _ => false

/-- The same with a joiner in front of it. -/
def joined : Following → Following
  | .lamed _ => .lamed true
  | .ya _ => .ya true
  | .tifinagh _ => .tifinagh true
  | .orkhonI _ => .orkhonI true
  | following => following

/-- What a character by itself is for the characters before it. -/
def ofChar (c : Char) : Following :=
  if [0x622, 0x623, 0x625, 0x627, 0x671, 0x672, 0x673, 0x675, 0x773, 0x774].contains c.toNat ||
      between 0x870 0x882 c then .alef
  else if c = '\u05DC' then .lamed false
  else if between 0x1780 0x1782 c || between 0x1784 0x1787 c || between 0x1789 0x178C c ||
      between 0x178E 0x1793 c || between 0x1795 0x1798 c || between 0x179B 0x179D c ||
      [0x17A0, 0x17A2, 0x17A7, 0x17AB, 0x17AC, 0x17AF].contains c.toNat then .coengLetter
  else if c = '\u1A10' then .ya false
  else if between 0x2D31 0x2D65 c || c = '\u2D6F' then .tifinagh false
  else if between 0xA4FC 0xA4FD c then .tone
  else if c.toNat = 0x10C03 then .orkhonI false
  else if c.toNat = 0x16D67 then .vowelE
  else if c.toNat = 0x16D68 then .vowelAi
  else if between 0x1F1E6 0x1F1FF c then .flagLetter
  else if between 0x1F3FB 0x1F3FF c then .modifier
  else if emojiRanges.holds c then .emoji
  else .nothing

end Following

/-- What comes behind a character, and whether a variation selector stands in between. -/
structure Behind where
  following : Following
  /-- The selector of the emoji style. -/
  emojiStyle : Bool
  /-- The selector of the text style. -/
  textStyle : Bool
deriving Repr, DecidableEq

namespace Behind

/-- What comes behind without a selector. -/
def plain (following : Following) : Behind := ⟨following, false, false⟩

/-- Nothing of importance. -/
def nothing : Behind := plain .nothing

/-- With the selector of the emoji style in front. -/
def withEmojiStyle (behind : Behind) : Behind :=
  if behind.following.isLigaturePart || behind.following.isJoinedEmoji then
    { behind with emojiStyle := true }
  else ⟨.nothing, true, false⟩

/-- With the selector of the text style in front. -/
def withTextStyle (behind : Behind) : Behind :=
  if behind.following.isLigaturePart then { behind with textStyle := true }
  else ⟨.nothing, false, true⟩

/-- Without the selector of the emoji style, which stands behind a character that has no styles. -/
def withoutEmojiStyle (behind : Behind) : Behind :=
  if ¬ behind.emojiStyle then behind
  else if behind.following.isLigaturePart then { behind with emojiStyle := false }
  else nothing

/-- Without the selector of the text style. -/
def withoutTextStyle (behind : Behind) : Behind :=
  if ¬ behind.textStyle then behind
  else if behind.following.isLigaturePart then { behind with textStyle := false }
  else nothing

end Behind

/-! ## Sequences -/

/-- Whether a character has an emoji style that a selector can choose. -/
def hasStyles (c : Char) : Bool := twoStyleRanges.holds c

/-- Whether a character is an emoji that has a text style of one column. -/
def hasNarrowStyle (c : Char) : Bool :=
  twoStyleRanges.holds c && emojiRanges.holds c && !between 0x1F200 0x1F2FF c

/-- Marks without a visible form that may stand within a ligature. -/
def isLigatureMark (c : Char) : Bool :=
  c == '\u034F' || between 0x17B4 0x17B5 c || between 0x180B 0x180D c || c == '\u180F' ||
    c == '\u200D' || between 0xFE00 0xFE0F c || between 0xE0100 0xE01EF c

/-- Whether a character is transparent for the joining of Arabic letters. -/
def isJoiningTransparent (c : Char) : Bool :=
  charWidth c == 0 && !nonTransparentRanges.holds c

/-- The columns that a character adds to a sequence that it joins, and what the sequence is then. -/
def joins? (c : Char) (following : Following) : Option (Int × Following) :=
  let n := c.toNat
  let flagLetter := between 0x1F1E6 0x1F1FF c
  let tagLetter := between 0xE0061 0xE007A c
  let tagDigit := between 0xE0030 0xE0039 c
  let tifinagh := between 0x2D31 0x2D65 c || n == 0x2D6F
  let blackFlag := n == 0x1F3F4
  match following with
  | .alef =>
    if between 0x6B5 0x6B8 c || [0x644, 0x76A, 0x8A6, 0x8C7].contains n then some (0, .nothing)
    else if isJoiningTransparent c then some (0, .alef)
    else none
  | .lamed true => if n = 0x5D0 then some (0, .nothing) else none
  | .coengLetter => if n = 0x17D2 then some (-1, .nothing) else none
  | .ya true => if n = 0x1A17 then some (0, .signBeforeYa) else none
  | .signBeforeYa => if n = 0x1A15 then some (0, .nothing) else none
  | .tifinagh joined =>
    if n = 0x2D7F then some (1, .tifinaghJoiner)
    else if joined && tifinagh then some (0, .nothing)
    else none
  | .tifinaghJoiner => if tifinagh then some (-1, .nothing) else none
  | .tone => if between 0xA4F8 0xA4FB c then some (0, .nothing) else none
  | .orkhonI true => if n = 0x10C32 then some (0, .nothing) else none
  | .vowelE =>
    if n = 0x16D63 || n = 0x16D69 then some (0, .nothing)
    else if n = 0x16D67 then some (0, .vowelAi)
    else if n = 0x16D68 then some (1, .vowelE)
    else none
  | .vowelAi => if n = 0x16D63 then some (0, .nothing) else none
  | .modifier =>
    if modifierBaseRanges.holds c then some (0, .emoji)
    else if n = 0x200D then some (0, .joinedEmoji)
    else none
  | .flagLetter => if flagLetter then some (1, .flagLetters) else none
  | .flagLetters =>
    if flagLetter then some (1, .flagLetters)
    else if n = 0x200D then some (0, .joinedEmoji)
    else none
  | .emoji => if n = 0x200D then some (0, .joinedEmoji) else none
  | .joinedEmoji =>
    if n = 0x20E3 then some (0, .joinedKeycap)
    else if flagLetter then some (1, .joinedFlagLetter)
    else if between 0x1F3FB 0x1F3FF c then some (0, .modifier)
    else if n = 0xE007F then some (0, .tagLetters 0)
    else if Following.ofChar c = .emoji then some (0, .emoji)
    else none
  | .joinedFlagLetter => if flagLetter then some (-1, .joinedFlagEven) else none
  | .joinedFlagEven =>
    if flagLetter then some (3, .joinedFlagOdd)
    else if n = 0x200D then some (0, .joinedEmoji)
    else none
  | .joinedFlagOdd =>
    if flagLetter then some (-1, .joinedFlagEven)
    else if n = 0x200D then some (0, .joinedEmoji)
    else none
  | .tagLetters count =>
    if tagLetter && count < 6 then some (0, .tagLetters (count + 1))
    else if tagDigit && count < 5 then some (0, .tagDigits 1)
    else if blackFlag && 3 ≤ count then some (0, .emoji)
    else none
  | .tagDigits count =>
    if tagDigit && count < 3 then some (0, .tagDigits (count + 1))
    else if blackFlag && count == 3 then some (0, .emoji)
    else none
  | .nothing | .lineFeed | .joinedKeycap | .lamed false | .ya false | .orkhonI false => none

/-- The columns that a character adds to what comes behind it, and what comes behind the character
before it. -/
def widthBefore (c : Char) (behind : Behind) : Int × Behind :=
  if behind.emojiStyle && hasStyles c then
    (if behind.following.isJoinedEmoji then 0 else 2, .plain .emoji)
  else
    let behind := behind.withoutEmojiStyle
    if c ≤ '\xA0' then
      if c = '\n' then (1, .plain .lineFeed)
      else if c = '\r' ∧ behind.following = .lineFeed then (0, .nothing)
      else (1, .nothing)
    else if c = '\uFE0F' then (0, behind.withEmojiStyle)
    else if c = '\uFE0E' then (0, behind.withTextStyle)
    else if behind.textStyle && hasNarrowStyle c then (1, .nothing)
    else
      let following := behind.withoutTextStyle.following
      if following.isTransparent && c == '\u200D' then (0, .plain following.joined)
      else if following.isTransparent && isLigatureMark c then (0, .plain following)
      else
        match joins? c following with
        | some (width, following) => (width, .plain following)
        | none => (charWidth c, .plain (.ofChar c))

/-- The columns of a text, and what it is for the characters before it. -/
def measure : Text → Int × Behind
  | [] => (0, .nothing)
  | c :: rest =>
    let (width, behind) := measure rest
    let (added, behind) := widthBefore c behind
    (width + added, behind)

/-- The number of columns that a text takes. -/
def width (t : Text) : Nat := (measure t).1.toNat

end Text
end ExprMigration
