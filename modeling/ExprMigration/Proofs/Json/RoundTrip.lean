import ExprMigration.Json.Printer
import ExprMigration.Json.Reader
import Mathlib.Data.List.Basic

/-!
# Reading what was written

A value of texts, truth values, arrays and objects is read back from the text that it is written as
(`Json.read_write`), whatever characters its texts hold.  Every character of a text is one piece for the
reader (`Json.pieces?_escapedChar`), and every item of an array and member of an object is a line that
begins with no blank and no closing bracket.
-/

namespace ExprMigration
namespace Json

/-- A value without numbers and places where nothing can be read, and with texts as the names of its
members. -/
inductive IsPlain : Json → Prop
  | null : IsPlain .null
  | bool (value : Bool) : IsPlain (.bool value)
  | text (value : Text) : IsPlain (.text value)
  | array {items : List Json} (hitems : ∀ item ∈ items, IsPlain item) : IsPlain (.array items)
  | object {members : List (Json × Json)} (hnames : ∀ m ∈ members, ∃ name, m.1 = .text name)
      (hvalues : ∀ m ∈ members, IsPlain m.2) : IsPlain (.object members)

variable {t rest : Text} {value item : Json} {items : List Json} {members : List (Json × Json)}
  {level fuel : Nat}

/-! ## Texts -/

/-- The piece as which a character is read. -/
def pieceOf (c : Char) : Piece :=
  if c.toNat < 0x20 ∧ c ∉ ['\x08', '\x0C', '\n', '\r', '\t'] then .unit c.toNat else .char c

theorem ofDigits?_hexDigits : ∀ n < 0x20, Text.ofDigits? 16
    ((if n < 0x10 then "000" else "00").toList ++ Text.hexDigits n) = some n ∧
    (Text.hexDigits n).length = if n < 0x10 then 1 else 2 := by
  decide

theorem pieces?_unit {a b c d : Char} {n : Nat} (h : Text.ofDigits? 16 [a, b, c, d] = some n) :
    pieces? ('\\' :: 'u' :: a :: b :: c :: d :: rest) =
      (pieces? rest).map fun (pieces, rest) => (.unit n :: pieces, rest) := by
  simp [pieces?, unit?, h]

/-- A character that is written as it is. -/
theorem pieces?_char {c : Char} (hquote : c ≠ '"') (hslash : c ≠ '\\') (hc : 0x20 ≤ c.toNat) :
    pieces? (c :: rest) = (pieces? rest).map fun (pieces, rest) => (.char c :: pieces, rest) := by
  have hplain : ¬ (c.toNat < 0x20 ∨ c = '\\') := fun h => h.elim (by omega) hslash
  rw [pieces?.eq_def]
  -- the first four patterns are for other characters
  split
  · simp_all
  · simp_all
  · simp_all
  · simp_all
  · rename_i heq
    cases heq
    rw [if_neg hplain]

theorem pieces?_escapedChar (c : Char) (rest : Text) : pieces? (escapedChar c ++ rest) =
    (pieces? rest).map fun (pieces, rest) => (pieceOf c :: pieces, rest) := by
  by_cases hshort : c ∈ ['"', '\\', '\x08', '\x0C', '\n', '\r', '\t']
  · simp only [List.mem_cons, List.not_mem_nil, or_false] at hshort
    rcases hshort with rfl | rfl | rfl | rfl | rfl | rfl | rfl <;> rfl
  simp only [List.mem_cons, List.not_mem_nil, or_false, not_or] at hshort
  obtain ⟨hquote, hslash, hshort⟩ := hshort
  by_cases hcontrol : c.toNat < 0x20
  · have hpiece : pieceOf c = .unit c.toNat := by simp [pieceOf, hcontrol, hshort]
    obtain ⟨hdigits, hlength⟩ := ofDigits?_hexDigits c.toNat hcontrol
    rw [hpiece]
    by_cases hone : c.toNat < 0x10
    · obtain ⟨d, hd⟩ := List.length_eq_one_iff.1 (hlength.trans (if_pos hone))
      rw [if_pos hone, hd] at hdigits
      have hescaped : escapedChar c = ['\\', 'u', '0', '0', '0', d] := by
        simp [escapedChar, hquote, hslash, hshort, hone, hd]
      rw [hescaped]
      exact pieces?_unit hdigits
    · obtain ⟨d, e, hde⟩ := List.length_eq_two.1 (hlength.trans (if_neg hone))
      rw [if_neg hone, hde] at hdigits
      have hescaped : escapedChar c = ['\\', 'u', '0', '0', d, e] := by
        simp [escapedChar, hquote, hslash, hshort, hone, hcontrol, hde]
      rw [hescaped]
      exact pieces?_unit hdigits
  · have hpiece : pieceOf c = .char c := by simp [pieceOf, hcontrol]
    have hescaped : escapedChar c = [c] := by
      have hten : ¬ c.toNat < 0x10 := by omega
      simp [escapedChar, hquote, hslash, hshort, hten, hcontrol]
    rw [hescaped, hpiece]
    exact pieces?_char hquote hslash (by omega)

theorem pieces?_flatMap (t rest : Text) :
    pieces? (t.flatMap escapedChar ++ '"' :: rest) = some (t.map pieceOf, rest) := by
  induction t with
  | nil => rfl
  | cons c cs ih => simp [pieces?_escapedChar, ih]

theorem paired?_unit {n : Nat} (hhigh : isHigh n = false) (hlow : isLow n = false)
    (pieces : List Piece) :
    paired? (.unit n :: pieces) = (paired? pieces).map (Char.ofNat n :: ·) := by
  rcases pieces with _ | ⟨_ | _, _⟩ <;> simp [paired?, hhigh, hlow]

/-- Escapes of a written text are those of control characters, which are no halves of surrogate
pairs. -/
theorem paired?_map (t : Text) : paired? (t.map pieceOf) = some t := by
  induction t with
  | nil => rfl
  | cons c cs ih =>
    by_cases hcontrol : c.toNat < 0x20 ∧ c ∉ ['\x08', '\x0C', '\n', '\r', '\t']
    · have hhigh : isHigh c.toNat = false := by simp [isHigh]; omega
      have hlow : isLow c.toNat = false := by simp [isLow]; omega
      rw [List.map_cons, pieceOf, if_pos hcontrol, paired?_unit hhigh hlow, ih, Option.map_some,
        Char.ofNat_toNat]
    · rw [List.map_cons, pieceOf, if_neg hcontrol, paired?, ih]
      rfl

theorem scalar_writeText (t rest : Text) : scalar (writeText t ++ rest) = (.text t, some rest) := by
  have hpieces := pieces?_flatMap t rest
  simp [scalar, writeText, hpieces, ofPieces, paired?_map]

/-! ## Blanks and lines -/

theorem skipBlanks_newLine (level : Nat) (t : Text) :
    skipBlanks (newLine level ++ t) = skipBlanks t := by
  refine List.dropWhile_append_of_pos fun c hc => ?_
  rcases List.mem_cons.1 hc with rfl | hc
  · rfl
  · rw [List.eq_of_mem_replicate hc]
    rfl

/-- A line with a comma in front, and more of them. -/
def moreLines (level : Nat) (lines : List Text) : Text :=
  lines.flatMap fun line => ',' :: (newLine level ++ line)

theorem join_cons (line : Text) (lines : List Text) :
    Text.join [','] ((line :: lines).map (newLine level ++ ·)) =
      newLine level ++ line ++ moreLines level lines := by
  induction lines generalizing line with
  | nil => simp [Text.join, moreLines]
  | cons next lines ih =>
    have hjoin : Text.join [','] ((line :: next :: lines).map (newLine level ++ ·)) =
        newLine level ++ line ++
          ',' :: Text.join [','] ((next :: lines).map (newLine level ++ ·)) := by
      simp [Text.join]
    rw [hjoin, ih]
    simp [moreLines]

/-- The written form of an array or object behind its first line. -/
theorem block_cons (level : Nat) (opening closing : Char) (line : Text) (lines : List Text) :
    block level opening closing (line :: lines) = opening :: (newLine (level + 1) ++ (line ++
      (moreLines (level + 1) lines ++ (newLine level ++ [closing])))) := by
  simp only [block, if_neg (List.cons_ne_nil line lines), join_cons, List.cons_append,
    List.append_assoc]

theorem writeItems_eq (level : Nat) (items : List Json) :
    writeItems level items = items.map (writeAt level) := by
  induction items with
  | nil => rfl
  | cons item items ih => rw [writeItems, ih, List.map_cons]

/-- The line of a member. -/
def writeMember (level : Nat) (member : Json × Json) : Text :=
  writeAt level member.1 ++ ": ".toList ++ writeAt level member.2

theorem writeMembers_eq (level : Nat) (members : List (Json × Json)) :
    writeMembers level members = members.map (writeMember level) := by
  induction members with
  | nil => rfl
  | cons m members ih => rw [writeMembers, ih, List.map_cons, writeMember]

/-! ## Values -/

/-- A value is read back at any level, in front of any rest. -/
def ReadsBack (value : Json) : Prop := ∀ (level fuel : Nat) (rest : Text),
  (writeAt level value).length ≤ fuel →
    valueFrom fuel (writeAt level value ++ rest) = (value, some rest)

theorem exists_head (h : IsPlain value) (level : Nat) : ∃ c cs, writeAt level value = c :: cs ∧
    isBlank c = false ∧ c ≠ ']' := by
  cases h with
  | null => exact ⟨'n', _, rfl, rfl, by decide⟩
  | bool value =>
    cases value with
    | false => exact ⟨'f', _, rfl, rfl, by decide⟩
    | true => exact ⟨'t', _, rfl, rfl, by decide⟩
  | text value => exact ⟨'"', _, rfl, rfl, by decide⟩
  | @array items => cases items <;> exact ⟨'[', _, rfl, rfl, by decide⟩
  | @object members =>
    rcases members with _ | ⟨⟨_, _⟩, _⟩ <;> exact ⟨'\x7b', _, rfl, rfl, by decide⟩

theorem skipBlanks_writeAt (h : IsPlain value) (level : Nat) (rest : Text) :
    skipBlanks (writeAt level value ++ rest) = writeAt level value ++ rest := by
  obtain ⟨c, cs, hwrite, hblank, -⟩ := exists_head h level
  simp [skipBlanks, hwrite, hblank]

theorem valueFrom_congr {s t : Text} (h : skipBlanks s = skipBlanks t) (fuel : Nat) :
    valueFrom fuel s = valueFrom fuel t := by
  cases fuel with
  | zero => rfl
  | succ fuel => simp only [valueFrom, h]

theorem readsBack_of_scalar (hscalar : ∀ level rest, scalar (writeAt level value ++ rest) =
    (value, some rest)) (hhead : ∀ level, ∃ c cs, writeAt level value = c :: cs ∧
      isBlank c = false ∧ c ≠ '[' ∧ c ≠ '\x7b') : ReadsBack value := by
  intro level fuel rest hfuel
  obtain ⟨c, cs, hwrite, hblank, hbracket, hbrace⟩ := hhead level
  have hvalue := hscalar level rest
  have hskip : skipBlanks (c :: (cs ++ rest)) = c :: (cs ++ rest) := by simp [skipBlanks, hblank]
  rw [hwrite] at hfuel hvalue ⊢
  obtain ⟨fuel, rfl⟩ : ∃ n, fuel = n + 1 := ⟨fuel - 1, by
    rw [List.length_cons] at hfuel
    omega⟩
  rw [List.cons_append] at hvalue ⊢
  simp [valueFrom, hskip, hbracket, hbrace, hvalue]

theorem readsBack_null : ReadsBack .null :=
  readsBack_of_scalar (fun _ _ => rfl) fun _ => ⟨'n', _, rfl, rfl, by decide⟩

theorem readsBack_bool (value : Bool) : ReadsBack (.bool value) := by
  cases value with
  | false => exact readsBack_of_scalar (fun _ _ => rfl) fun _ => ⟨'f', _, rfl, rfl, by decide⟩
  | true => exact readsBack_of_scalar (fun _ _ => rfl) fun _ => ⟨'t', _, rfl, rfl, by decide⟩

theorem readsBack_text (t : Text) : ReadsBack (.text t) :=
  readsBack_of_scalar (fun _ => scalar_writeText t) fun _ => ⟨'"', _, rfl, rfl, by decide⟩

/-! ## Arrays and objects -/

/-- A reader of what stands between brackets takes one line after the other, up to the closing
bracket. -/
structure ReadsLines {α : Type} (read : Nat → Bool → Text → List α × Option Text) (closing : Char)
    (line : Nat → α → Text) (items : List α) : Prop where
  close : ∀ (fuel : Nat) (first : Bool) (t rest : Text), skipBlanks t = closing :: rest →
    read (fuel + 1) first t = ([], some rest)
  /-- There is a comma in front of every line but the first one. -/
  step : ∀ item ∈ items, ∀ (level fuel : Nat) (first : Bool) (behind : Text),
    (line level item).length ≤ fuel →
    read (fuel + 1) first
        ((if first then [] else [',']) ++ (newLine level ++ (line level item ++ behind))) =
      (item :: (read fuel false behind).1, (read fuel false behind).2)

section ReadsLines

variable {α : Type} {read : Nat → Bool → Text → List α × Option Text} {closing : Char}
  {line : Nat → α → Text}

theorem ReadsLines.tail {item : α} {more : List α}
    (h : ReadsLines read closing line (item :: more)) :
    ReadsLines read closing line more :=
  ⟨h.close, fun next hnext => h.step next (List.mem_cons_of_mem item hnext)⟩

theorem ReadsLines.close_newLine {more : List α} (h : ReadsLines read closing line more)
    (hclosing : isBlank closing = false) (fuel level : Nat) (rest : Text) :
    read (fuel + 1) false (newLine level ++ closing :: rest) = ([], some rest) := by
  refine h.close fuel false _ rest ?_
  rw [skipBlanks_newLine]
  simp [skipBlanks, hclosing]

theorem ReadsLines.more {more : List α} (h : ReadsLines read closing line more)
    (hclosing : isBlank closing = false) (level outer fuel : Nat) (rest : Text)
    (hfuel : (moreLines level (more.map (line level)) ++
      (newLine outer ++ [closing])).length ≤ fuel) :
    read fuel false (moreLines level (more.map (line level)) ++
      (newLine outer ++ closing :: rest)) = (more, some rest) := by
  induction more generalizing fuel with
  | nil =>
    obtain ⟨fuel, rfl⟩ : ∃ n, fuel = n + 1 := ⟨fuel - 1, by simp at hfuel; omega⟩
    exact h.close_newLine hclosing fuel outer rest
  | cons item more ih =>
    simp only [moreLines, List.map_cons, List.flatMap_cons, List.length_append, List.length_cons,
      List.length_nil] at hfuel
    obtain ⟨fuel, rfl⟩ : ∃ n, fuel = n + 1 := ⟨fuel - 1, by omega⟩
    have hmore := ih h.tail fuel (by
      simp only [moreLines, List.length_append, List.length_cons, List.length_nil]
      omega)
    have hitem := h.step item List.mem_cons_self level fuel false
      (moreLines level (more.map (line level)) ++ (newLine outer ++ closing :: rest)) (by omega)
    rw [hmore] at hitem
    simpa [moreLines] using hitem

/-- What stands between brackets is read back. -/
theorem ReadsLines.exists_block {items : List α} (h : ReadsLines read closing line items)
    (hclosing : isBlank closing = false) (level : Nat) (opening : Char) :
    ∃ inner, block level opening closing (items.map (line (level + 1))) = opening :: inner ∧
      ∀ fuel rest, inner.length ≤ fuel → read fuel true (inner ++ rest) = (items, some rest) := by
  rcases items with _ | ⟨item, more⟩
  · refine ⟨[closing], rfl, fun fuel rest hfuel => ?_⟩
    obtain ⟨fuel, rfl⟩ : ∃ n, fuel = n + 1 := ⟨fuel - 1, by simp at hfuel; omega⟩
    exact h.close fuel true _ rest (by simp [skipBlanks, hclosing])
  · rw [List.map_cons, block_cons]
    refine ⟨_, rfl, fun fuel rest hfuel => ?_⟩
    have hline : 0 < (newLine (level + 1)).length := by simp [newLine]
    simp only [List.length_append, List.length_cons, List.length_nil] at hfuel
    obtain ⟨fuel, rfl⟩ : ∃ n, fuel = n + 1 := ⟨fuel - 1, by omega⟩
    have hmore := h.tail.more hclosing (level + 1) level fuel rest (by
      simp only [List.length_append, List.length_cons, List.length_nil]
      omega)
    have hitem := h.step item List.mem_cons_self (level + 1) fuel true
      (moreLines (level + 1) (more.map (line (level + 1))) ++ (newLine level ++ closing :: rest))
      (by omega)
    rw [hmore, if_pos rfl, List.nil_append] at hitem
    simpa using hitem

end ReadsLines

/-- One step through the items of an array. -/
theorem itemsFrom_step {first : Bool} {before behind : Text}
    (hclose : ∀ r, skipBlanks before ≠ ']' :: r)
    (hstart : (if first then some (skipBlanks before)
      else Text.afterLead? [','] (skipBlanks before)) = some t)
    (hitem : valueFrom fuel t = (item, some behind)) :
    itemsFrom (fuel + 1) first before =
      (item :: (itemsFrom fuel false behind).1, (itemsFrom fuel false behind).2) := by
  rw [itemsFrom]
  split
  · rename_i heq
    exact absurd heq (hclose _)
  · simp only [hstart, hitem]

theorem readsLines_items (hplain : ∀ item ∈ items, IsPlain item)
    (hback : ∀ item ∈ items, ReadsBack item) : ReadsLines itemsFrom ']' writeAt items := by
  refine ⟨fun fuel first t rest ht => by simp [itemsFrom, ht], ?_⟩
  intro item hmem level fuel first behind hfuel
  have h := hplain item hmem
  obtain ⟨c, cs, hwrite, -, hc⟩ := exists_head h level
  have hskip : skipBlanks (newLine level ++ (writeAt level item ++ behind)) =
      writeAt level item ++ behind := by
    rw [skipBlanks_newLine, skipBlanks_writeAt h]
  have hvalue := hback item hmem level fuel behind hfuel
  cases first with
  | true =>
    refine itemsFrom_step (fun r => ?_) (congrArg some hskip) hvalue
    rw [if_pos rfl, List.nil_append, hskip, hwrite]
    exact fun heq => hc (List.cons.inj heq).1
  | false =>
    have hnext : valueFrom fuel (newLine level ++ (writeAt level item ++ behind)) =
        (item, some behind) := by
      rw [← hvalue]
      exact valueFrom_congr (hskip.trans (skipBlanks_writeAt h level behind).symm) fuel
    refine itemsFrom_step (fun r => ?_) rfl hnext
    exact fun heq => absurd (List.cons.inj heq).1 (by decide)

/-- One step through the members of an object. -/
theorem membersFrom_step {first : Bool} {before after behind u : Text} {name : Json}
    (hclose : ∀ r, skipBlanks before ≠ '\x7d' :: r)
    (hstart : (if first then some (skipBlanks before)
      else Text.afterLead? [','] (skipBlanks before)) = some t)
    (hname : valueFrom fuel t = (name, some after)) (htext : name.isText)
    (hcolon : skipBlanks after = ':' :: u) (hvalue : valueFrom fuel u = (value, some behind)) :
    membersFrom (fuel + 1) first before =
      ((name, value) :: (membersFrom fuel false behind).1, (membersFrom fuel false behind).2) := by
  rw [membersFrom]
  split
  · rename_i heq
    exact absurd heq (hclose _)
  · simp only [hstart, hname, htext, hcolon, hvalue]

theorem readsLines_members (hnames : ∀ m ∈ members, ∃ name, m.1 = .text name)
    (hback : ∀ m ∈ members, ReadsBack m.2) :
    ReadsLines membersFrom '\x7d' writeMember members := by
  refine ⟨fun fuel first t rest ht => by simp [membersFrom, ht], ?_⟩
  rintro ⟨_, value⟩ hmem level fuel first behind hfuel
  obtain ⟨name, rfl⟩ := hnames _ hmem
  have hmember : writeMember level (.text name, value) ++ behind =
      writeAt level (.text name) ++ ':' :: ' ' :: (writeAt level value ++ behind) := by
    simp [writeMember]
  have hlength : (writeAt level (.text name)).length ≤ fuel ∧
      (writeAt level value).length ≤ fuel := by
    simp only [writeMember, List.length_append] at hfuel
    omega
  have hname := readsBack_text name level fuel
    (':' :: ' ' :: (writeAt level value ++ behind)) hlength.1
  have hcolon : skipBlanks (':' :: ' ' :: (writeAt level value ++ behind)) =
      ':' :: ' ' :: (writeAt level value ++ behind) := rfl
  have hvalue : valueFrom fuel (' ' :: (writeAt level value ++ behind)) = (value, some behind) := by
    have hblank (t : Text) : skipBlanks (' ' :: t) = skipBlanks t := rfl
    rw [valueFrom_congr (hblank _), hback _ hmem level fuel behind hlength.2]
  have hskip : skipBlanks (newLine level ++ (writeMember level (.text name, value) ++ behind)) =
      writeMember level (.text name, value) ++ behind := by
    rw [skipBlanks_newLine, hmember, skipBlanks_writeAt (.text name)]
  rw [← hmember] at hname
  cases first with
  | true =>
    refine membersFrom_step (fun r => ?_) (congrArg some hskip) hname rfl hcolon hvalue
    rw [if_pos rfl, List.nil_append, hskip, hmember]
    exact fun h => absurd (List.cons.inj h).1 (by decide)
  | false =>
    have hnext :
        valueFrom fuel (newLine level ++ (writeMember level (.text name, value) ++ behind)) =
          (.text name, some (':' :: ' ' :: (writeAt level value ++ behind))) := by
      rw [← hname]
      exact valueFrom_congr (hskip.trans (by rw [hmember, skipBlanks_writeAt (.text name)])) fuel
    refine membersFrom_step (fun r => ?_) rfl hnext rfl hcolon hvalue
    exact fun h => absurd (List.cons.inj h).1 (by decide)

theorem readsBack_array (h : ReadsLines itemsFrom ']' writeAt items) :
    ReadsBack (.array items) := by
  intro level fuel rest hfuel
  obtain ⟨inner, hblock, hread⟩ := h.exists_block rfl level '['
  have hwrite : writeAt level (.array items) = '[' :: inner := by
    rw [writeAt, writeItems_eq, hblock]
  rw [hwrite, List.length_cons] at hfuel
  obtain ⟨fuel, rfl⟩ : ∃ n, fuel = n + 1 := ⟨fuel - 1, by omega⟩
  have hskip (t : Text) : skipBlanks ('[' :: t) = '[' :: t := rfl
  simp [hwrite, valueFrom, hskip, hread fuel rest (by omega)]

theorem readsBack_object (h : ReadsLines membersFrom '\x7d' writeMember members) :
    ReadsBack (.object members) := by
  intro level fuel rest hfuel
  obtain ⟨inner, hblock, hread⟩ := h.exists_block rfl level '\x7b'
  have hwrite : writeAt level (.object members) = '\x7b' :: inner := by
    rw [writeAt, writeMembers_eq, hblock]
  rw [hwrite, List.length_cons] at hfuel
  obtain ⟨fuel, rfl⟩ : ∃ n, fuel = n + 1 := ⟨fuel - 1, by omega⟩
  have hskip (t : Text) : skipBlanks ('\x7b' :: t) = '\x7b' :: t := rfl
  simp [hwrite, valueFrom, hskip, hread fuel rest (by omega)]

/-! ## Whole texts -/

theorem IsPlain.readsBack (h : IsPlain value) : ReadsBack value := by
  induction h with
  | null => exact readsBack_null
  | bool value => exact readsBack_bool value
  | text value => exact readsBack_text value
  | array hitems ih => exact readsBack_array (readsLines_items hitems ih)
  | object hnames _ ih => exact readsBack_object (readsLines_members hnames ih)

/-- The reader undoes the printer. -/
theorem read_write (h : IsPlain value) : read (write value) = (value, some []) := by
  have hback := h.readsBack 0 (2 * (write value).length + 2) [] (by rw [write]; omega)
  rwa [List.append_nil] at hback

end Json
end ExprMigration
