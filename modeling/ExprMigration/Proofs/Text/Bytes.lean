import ExprMigration.Text.Basic
import Mathlib.Tactic.SplitIfs

/-!
# The bytes of a text

Texts are compared by their characters.  Texts in this order stand in the order of their bytes in UTF-8
(`Text.bytes_lt_bytes`): a greater character has a greater byte at the first place at which the two
encodings differ, and neither encoding begins the other.
-/

namespace ExprMigration
namespace Text

/-- The bytes of a text in UTF-8. -/
def bytes (t : Text) : List UInt8 := t.flatMap String.utf8EncodeChar

/-- A greater character has greater bytes, whatever follows the two. -/
theorem encode_append_lt {c d : Char} (h : c < d) (as bs : List UInt8) :
    String.utf8EncodeChar c ++ as < String.utf8EncodeChar d ++ bs := by
  have hlt : c.val.toNat < d.val.toNat := h
  have hlimit : d.val.toNat < 0x110000 := d.valid.elim (by omega) (by omega)
  simp only [String.utf8EncodeChar]
  generalize c.val.toNat = v at hlt
  generalize d.val.toNat = w at hlt hlimit
  -- the two have encodings of one length, or the first byte tells them apart
  split_ifs <;>
    simp only [List.cons_append, List.nil_append, List.cons_lt_cons_iff, UInt8.lt_iff_toNat_lt,
      ← UInt8.toNat_inj, UInt8.toNat_ofNat'] <;>
    simp (disch := omega) only [Nat.mod_eq_of_lt] <;>
    omega

/-- A greater text has greater bytes. -/
theorem bytes_lt_bytes {s t : Text} (h : s < t) : bytes s < bytes t := by
  induction s generalizing t with
  | nil =>
    cases t with
    | nil => exact absurd h (List.lt_irrefl _)
    | cons d ds =>
      rcases hbytes : bytes (d :: ds) with _ | ⟨b, bs⟩
      · simp [bytes] at hbytes
      · exact List.nil_lt_cons b bs
  | cons c cs ih =>
    cases t with
    | nil => exact absurd h (List.not_lt_nil _)
    | cons d ds =>
      rcases List.cons_lt_cons_iff.1 h with hlt | ⟨rfl, hlt⟩
      · exact encode_append_lt hlt _ _
      · exact List.append_left_lt (ih hlt)

end Text
end ExprMigration
