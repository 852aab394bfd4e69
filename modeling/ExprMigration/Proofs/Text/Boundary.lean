import ExprMigration.Proofs.Text.Bytes
import ExprMigration.Proofs.Token.Extraction
import Mathlib.Data.List.Infix

/-!
# Boundaries between characters

A search for one text in another counts in bytes.  The first byte of a character is the first byte of no
other place in an encoding, so that what such a search finds stands between characters
(`Text.exists_of_bytes_prefix_drop`), and the first place that it finds is the first place by characters
(`Text.firstByteAt_iff`).
-/

namespace ExprMigration
namespace Text

variable {s t mark : Text} {place n : Nat}

/-! ## Sizes -/

theorem utf8Size_append (s t : Text) : utf8Size (s ++ t) = utf8Size s + utf8Size t := by
  induction s with
  | nil => simp [utf8Size]
  | cons c cs ih =>
    simp only [List.cons_append, utf8Size, ih]
    omega

theorem utf8Size_pos (h : t ≠ []) : 0 < utf8Size t := by
  cases t with
  | nil => exact absurd rfl h
  | cons c cs =>
    have hc : 0 < c.utf8Size := c.utf8Size_pos
    simp only [utf8Size]
    omega

/-- Of two beginnings of one text, the one with no more bytes is no longer. -/
theorem length_le_of_utf8Size_le {whole : Text} (hs : s <+: whole) (ht : t <+: whole)
    (h : utf8Size s ≤ utf8Size t) : s.length ≤ t.length := by
  by_contra hlt
  obtain ⟨more, rfl⟩ := List.prefix_of_prefix_length_le ht hs (by omega)
  have hmore : more ≠ [] := by
    rintro rfl
    simp at hlt
  have hpos := utf8Size_pos hmore
  rw [utf8Size_append] at h
  omega

/-! ## Encodings -/

theorem bytes_cons (c : Char) (t : Text) : bytes (c :: t) = String.utf8EncodeChar c ++ bytes t := rfl

theorem bytes_append (s t : Text) : bytes (s ++ t) = bytes s ++ bytes t := List.flatMap_append

theorem length_bytes (t : Text) : (bytes t).length = utf8Size t := by
  induction t with
  | nil => rfl
  | cons c t ih => rw [bytes_cons, List.length_append, String.length_utf8EncodeChar, ih, utf8Size]

theorem bytes_take (t : Text) (place : Nat) :
    bytes (t.take place) = (bytes t).take (utf8Size (t.take place)) := by
  conv_rhs => rw [← List.take_append_drop place t, bytes_append, List.take_append_drop]
  rw [← length_bytes, List.take_left']
  rfl

theorem bytes_drop (t : Text) (place : Nat) :
    bytes (t.drop place) = (bytes t).drop (utf8Size (t.take place)) := by
  conv_rhs => rw [← List.take_append_drop place t, bytes_append, List.take_append_drop]
  rw [← length_bytes, List.drop_left']
  rfl

/-- Two encodings that agree, whatever follows them, are those of one character. -/
theorem encode_append_inj {c d : Char} {as bs : List UInt8}
    (h : String.utf8EncodeChar c ++ as = String.utf8EncodeChar d ++ bs) : c = d ∧ as = bs := by
  rcases Std.lt_trichotomy c d with hlt | rfl | hgt
  · exact absurd (h ▸ encode_append_lt hlt as bs) (List.lt_irrefl _)
  · exact ⟨rfl, List.append_cancel_left h⟩
  · exact absurd (h ▸ encode_append_lt hgt bs as) (List.lt_irrefl _)

/-- The bytes of a text begin those of another one exactly if the text begins the other one. -/
theorem bytes_prefix_iff : bytes s <+: bytes t ↔ s <+: t := by
  constructor
  · intro h
    induction s generalizing t with
    | nil => exact List.nil_prefix
    | cons c s ih =>
      obtain ⟨rest, hrest⟩ := h
      rw [bytes_cons, List.append_assoc] at hrest
      cases t with
      | nil => exact absurd (List.append_eq_nil_iff.1 hrest).1 String.utf8EncodeChar_ne_nil
      | cons d t =>
        obtain ⟨rfl, htail⟩ := encode_append_inj hrest
        exact List.cons_prefix_cons.2 ⟨rfl, ih ⟨rest, htail⟩⟩
  · rintro ⟨rest, rfl⟩
    exact ⟨bytes rest, (bytes_append s rest).symm⟩

/-! ## Places found by bytes -/

/-- Inside an encoding there is no byte with which an encoding begins. -/
theorem not_encode_prefix_drop {c d : Char} {as bs : List UInt8} (h0 : 0 < n)
    (hn : n < (String.utf8EncodeChar c).length) :
    ¬ String.utf8EncodeChar d ++ as <+: (String.utf8EncodeChar c ++ bs).drop n := by
  rintro ⟨rest, hrest⟩
  have hd : 0 < (String.utf8EncodeChar d).length := by
    rw [String.length_utf8EncodeChar]
    exact d.utf8Size_pos
  have hbyte : (String.utf8EncodeChar d)[0] = (String.utf8EncodeChar c)[n] := by
    have hhead := congrArg (·[0]?) hrest
    simp only [List.append_assoc, List.getElem?_drop, Nat.add_zero] at hhead
    rwa [List.getElem?_append_left hd, List.getElem?_append_left hn, List.getElem?_eq_getElem hd,
      List.getElem?_eq_getElem hn, Option.some.injEq] at hhead
  have hfirst : (String.utf8EncodeChar d)[0].IsUTF8FirstByte :=
    UInt8.isUTF8FirstByte_getElem_utf8EncodeChar.2 rfl
  rw [hbyte, UInt8.isUTF8FirstByte_getElem_utf8EncodeChar] at hfirst
  omega

/-- Where the bytes of a text that is not empty occur, that text occurs. -/
theorem exists_of_bytes_prefix_drop (hmark : mark ≠ []) (h : bytes mark <+: (bytes t).drop n) :
    ∃ place, n = utf8Size (t.take place) ∧ mark <+: t.drop place := by
  obtain ⟨d, more, rfl⟩ := List.exists_cons_of_ne_nil hmark
  induction t generalizing n with
  | nil =>
    rw [bytes_cons] at h
    simp [bytes, String.utf8EncodeChar_ne_nil] at h
  | cons c t ih =>
    by_cases h0 : n = 0
    · subst h0
      exact ⟨0, rfl, bytes_prefix_iff.1 h⟩
    by_cases hn : n < (String.utf8EncodeChar c).length
    · exact absurd h (not_encode_prefix_drop (by omega) hn)
    · -- behind the first character
      have hdrop : (bytes (c :: t)).drop n =
          (bytes t).drop (n - (String.utf8EncodeChar c).length) := by
        rw [bytes_cons, List.drop_append, List.drop_eq_nil_of_le (by omega), List.nil_append]
      rw [hdrop] at h
      obtain ⟨place, hplace, hprefix⟩ := ih h
      rw [String.length_utf8EncodeChar] at hplace hn
      exact ⟨place + 1, by rw [List.take_succ_cons, utf8Size]; omega, hprefix⟩

/-! ## Boundaries -/

/-- A number of bytes behind which no character of a text goes on. -/
def IsBoundary (t : Text) (n : Nat) : Prop := ∃ place, n = utf8Size (t.take place)

/-- The bytes of `mark` occur in those of `t` behind so many bytes, and nowhere before. -/
def FirstByteAt (t mark : Text) (n : Nat) : Prop :=
  bytes mark <+: (bytes t).drop n ∧ ∀ earlier < n, ¬ bytes mark <+: (bytes t).drop earlier

theorem IsBoundary.le (h : IsBoundary t n) : n ≤ utf8Size t := by
  obtain ⟨place, rfl⟩ := h
  have hsize := utf8Size_append (t.take place) (t.drop place)
  rw [List.take_append_drop] at hsize
  omega

theorem length_le_of_prefix_drop (hmark : mark ≠ []) (h : mark <+: t.drop place) :
    place + mark.length ≤ t.length := by
  have hlength := h.length_le
  have hpos := List.length_pos_iff.2 hmark
  rw [List.length_drop] at hlength
  omega

theorem utf8Size_take_lt {earlier : Nat} (hlt : earlier < place) (hplace : place ≤ t.length) :
    utf8Size (t.take earlier) < utf8Size (t.take place) := by
  by_contra hle
  have hlength := length_le_of_utf8Size_le (List.take_prefix place t) (List.take_prefix earlier t)
    (by omega)
  rw [List.length_take, List.length_take] at hlength
  omega

/-- The first place that a search by bytes finds is the first place. -/
theorem firstByteAt_iff (hmark : mark ≠ []) :
    FirstByteAt t mark n ↔ ∃ place, FirstAt t mark place ∧ n = utf8Size (t.take place) := by
  constructor
  · rintro ⟨hoccurs, hbefore⟩
    obtain ⟨place, rfl, hplace⟩ := exists_of_bytes_prefix_drop hmark hoccurs
    have hle := length_le_of_prefix_drop hmark hplace
    refine ⟨place, ⟨hplace, fun earlier hlt hearlier => ?_⟩, rfl⟩
    refine hbefore _ (utf8Size_take_lt hlt (by omega)) ?_
    rw [← bytes_drop]
    exact bytes_prefix_iff.2 hearlier
  · rintro ⟨place, ⟨hplace, hbefore⟩, rfl⟩
    refine ⟨by rw [← bytes_drop]; exact bytes_prefix_iff.2 hplace, fun earlier hlt hearlier => ?_⟩
    obtain ⟨place', rfl, hplace'⟩ := exists_of_bytes_prefix_drop hmark hearlier
    have hle := length_le_of_prefix_drop hmark hplace'
    rcases Nat.lt_or_ge place' place with hlt' | hge
    · exact hbefore place' hlt' hplace'
    · rcases Nat.eq_or_lt_of_le hge with rfl | hgt
      · exact Nat.lt_irrefl _ hlt
      · have hsize : utf8Size (t.take place) < utf8Size (t.take place') :=
          utf8Size_take_lt hgt (by omega)
        omega

/-! ## Slicing -/

/-- What is left of a text when the bytes of `mark` are sliced out of it behind so many bytes: both slices
end between characters. -/
structure SlicesOut (t mark : Text) (n : Nat) (rest : Text) : Prop where
  start : IsBoundary t n
  stop : IsBoundary t (n + utf8Size mark)
  fits : n + utf8Size mark ≤ utf8Size t
  left : bytes rest = (bytes t).take n ++ (bytes t).drop (n + utf8Size mark)

theorem slicesOut (h : mark <+: t.drop place) :
    SlicesOut t mark (utf8Size (t.take place)) (t.take place ++ t.drop (place + mark.length)) := by
  have htake : t.take (place + mark.length) = t.take place ++ mark := by
    rw [List.take_add, ← List.prefix_iff_eq_take.1 h]
  have hsize : utf8Size (t.take place) + utf8Size mark = utf8Size (t.take (place + mark.length)) := by
    rw [htake, utf8Size_append]
  have hstop : IsBoundary t (utf8Size (t.take place) + utf8Size mark) := ⟨_, hsize⟩
  refine ⟨⟨place, rfl⟩, hstop, hstop.le, ?_⟩
  rw [bytes_append, bytes_take, bytes_drop, hsize]

end Text
end ExprMigration
