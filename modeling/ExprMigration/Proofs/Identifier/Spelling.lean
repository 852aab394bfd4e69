import ExprMigration.Proofs.Identifier.Neighbours
import ExprMigration.Proofs.Text.Trim

/-!
# Spellings of a name

A name can be written in capitals or not, with one separator between two words or with several, and with
blanks around it: all these spellings have one identifier (`Identifier.ofName_eq_of_respelled`).

Lower-casing looks at the neighbours of a character, and so a part of a name does not go to lower case
as it would alone.  But it is only the two small sigmas between which the neighbours decide, and neither
of them is kept in an identifier.  So the identifier can be read off a lower-case form that is taken
character by character (`ofName_eq_flatMap`), and that one falls into parts where the name does.
-/

namespace ExprMigration
namespace Identifier

variable {raise : Bool} {a b s t : Text} {c : Char}

/-! ## Lower case without neighbours -/

/-- The lower-case form of a character, whatever its neighbours are. -/
def lowerAlone (c : Char) : Text := if c = 'İ' then ['i', '\u0307'] else [Text.lowerChar c]

theorem lowerAlone_ne_nil (c : Char) : lowerAlone c ≠ [] := by
  rw [lowerAlone]
  split <;> simp

theorem lowerAlone_sigma : lowerAlone 'Σ' = ['σ'] := by decide +kernel

theorem camelFrom_finalSigma (raise : Bool) (t : Text) :
    camelFrom raise ('ς' :: t) = camelFrom raise ('σ' :: t) := rfl

/-- The letters and digits that are kept do not depend on neighbours. -/
theorem camelFrom_lowerAfter (raise : Bool) (before t : Text) :
    camelFrom raise (Text.lowerAfter before t) = camelFrom raise (t.flatMap lowerAlone) := by
  induction t generalizing raise before with
  | nil => rfl
  | cons c t ih =>
    rw [Text.lowerAfter, List.flatMap_cons]
    by_cases hdot : c = 'İ'
    · simp [hdot, lowerAlone, camelFrom, ih]
    · by_cases hsigma : c = 'Σ'
      · subst hsigma
        have hsmall : camelFrom raise ('σ' :: Text.lowerAfter ('Σ' :: before) t) =
            camelFrom raise ('σ' :: t.flatMap lowerAlone) := by
          simp [camelFrom, ih]
        rw [if_neg hdot, if_pos rfl, lowerAlone_sigma]
        split
        · exact (camelFrom_finalSigma raise _).trans hsmall
        · exact hsmall
      · simp [hdot, hsigma, lowerAlone, camelFrom, ih]

theorem guardFor_lower (t : Text) : guardFor (Text.lower t) = guardFor (t.flatMap lowerAlone) := by
  cases t with
  | nil => rfl
  | cons c t =>
    rw [Text.lower, Text.lowerAfter, List.flatMap_cons]
    by_cases hdot : c = 'İ'
    · simp [hdot, lowerAlone, guardFor]
    · by_cases hsigma : c = 'Σ'
      · subst hsigma
        rw [if_neg hdot, if_pos rfl, lowerAlone_sigma]
        split <;> rfl
      · simp [hdot, hsigma, lowerAlone, guardFor]

theorem ofName_eq_flatMap (name : Text) :
    ofName name = guardFor ((Text.trim name).flatMap lowerAlone) ++
      camelFrom false ((Text.trim name).flatMap lowerAlone) := by
  rw [ofName, guardFor_lower, Text.lower, camelFrom_lowerAfter]

/-! ## Separators -/

/-- One or more separators. -/
def IsGap (t : Text) : Prop := t ≠ [] ∧ ∀ c ∈ t, isSeparator c

theorem guardFor_append (h : s ≠ []) (t : Text) : guardFor (s ++ t) = guardFor s := by
  cases s with
  | nil => exact absurd rfl h
  | cons c s => rfl

theorem camelFrom_separator (hc : isSeparator c) (raise : Bool) (t : Text) :
    camelFrom raise (c :: t) = camelFrom true t := by
  have hneither : c.isAlpha = false ∧ c.isDigit = false := by
    simp only [isSeparator, Bool.or_eq_true, beq_iff_eq] at hc
    rcases hc with ((rfl | rfl) | rfl) | rfl <;> decide
  simp [camelFrom, hneither, hc]

/-- However many separators there are, and whichever, the letter behind them is raised. -/
theorem camelFrom_gap {gap : Text} (hgap : IsGap gap) (raise : Bool) (s t : Text) :
    camelFrom raise (s ++ gap ++ t) = camelFrom raise s ++ camelFrom true t := by
  have hrun (raise : Bool) : camelFrom raise (gap ++ t) = camelFrom true t := by
    induction gap generalizing raise with
    | nil => exact absurd rfl hgap.1
    | cons c gap ih =>
      obtain ⟨hc, hrest⟩ := List.forall_mem_cons.1 hgap.2
      rw [List.cons_append, camelFrom_separator hc]
      cases gap with
      | nil => rfl
      | cons d gap => exact ih ⟨by simp, hrest⟩ true
  rw [List.append_assoc]
  induction s generalizing raise with
  | nil => exact hrun raise
  | cons c s ih =>
    simp only [List.cons_append, camelFrom, ih]
    split
    · rfl
    · split <;> rfl

theorem lowerAlone_of_isSeparator (hc : isSeparator c) : lowerAlone c = [c] := by
  simp only [isSeparator, Bool.or_eq_true, beq_iff_eq] at hc
  rcases hc with ((rfl | rfl) | rfl) | rfl <;> decide

theorem flatMap_lowerAlone_gap {gap : Text} (hgap : IsGap gap) : gap.flatMap lowerAlone = gap := by
  rw [List.flatMap_congr fun c hc => lowerAlone_of_isSeparator (hgap.2 c hc)]
  simp

/-- What stands between two words with a gap is nothing but the gap. -/
theorem ofName_gap {gap : Text} (ha : Text.HasInk a) (hb : Text.HasInk b) (hgap : IsGap gap) :
    ofName (a ++ gap ++ b) = guardFor ((Text.trimStart a).flatMap lowerAlone) ++
      (camelFrom false ((Text.trimStart a).flatMap lowerAlone) ++
        camelFrom true ((Text.trimEnd b).flatMap lowerAlone)) := by
  have hfront : (Text.trimStart a).flatMap lowerAlone ≠ [] := by
    obtain ⟨c, rest, hcons⟩ := List.exists_cons_of_ne_nil (Text.trimStart_ne_nil_iff.2 ha)
    rw [hcons, List.flatMap_cons]
    exact List.append_ne_nil_of_left_ne_nil (lowerAlone_ne_nil c) _
  rw [ofName_eq_flatMap, Text.trim_between ha hb, List.flatMap_append, List.flatMap_append,
    flatMap_lowerAlone_gap hgap, camelFrom_gap hgap, List.append_assoc, guardFor_append hfront]

/-! ## Letter case -/

/-- Texts that differ at most in the case of ASCII letters. -/
def SameLetters (s t : Text) : Prop := List.Forall₂ (fun c d => c.toLower = d.toLower) s t

theorem sameLetters_iff : SameLetters s t ↔ s.map Char.toLower = t.map Char.toLower := by
  rw [SameLetters, ← List.forall₂_eq_eq_eq, List.forall₂_map_left_iff, List.forall₂_map_right_iff]

theorem toNat_toLower (hc : c.isUpper) : c.toLower.toNat = c.toNat + 32 := by
  have hrange := Text.isUpper_iff_toNat.1 hc
  rw [Char.toLower_eq_of_isUpper hc, Char.toNat_ofNat, if_pos (.inl (by omega))]

theorem isBlank_toLower (c : Char) : Text.isBlank c.toLower = Text.isBlank c := by
  by_cases hc : c.isUpper
  · have hrange := Text.isUpper_iff_toNat.1 hc
    have hlower := toNat_toLower hc
    rw [Text.isBlank_of_printable (by omega), Text.isBlank_of_printable (by omega)]
  · rw [Char.toLower_eq_of_not_isUpper hc]

theorem lowerAlone_of_ascii (hc : c.toNat < 128) : lowerAlone c = [c.toLower] := by
  have hdot : c ≠ 'İ' := by
    rintro rfl
    exact absurd hc (by decide)
  rw [lowerAlone, if_neg hdot, Text.lowerChar, if_pos hc]

theorem lowerAlone_toLower (c : Char) : lowerAlone c.toLower = lowerAlone c := by
  by_cases hc : c.isUpper
  · have hrange := Text.isUpper_iff_toNat.1 hc
    have hlower := toNat_toLower hc
    rw [lowerAlone_of_ascii (by omega), lowerAlone_of_ascii (by omega),
      Char.toLower_toLower_eq_toLower]
  · rw [Char.toLower_eq_of_not_isUpper hc]

theorem ofName_map_toLower (name : Text) : ofName (name.map Char.toLower) = ofName name := by
  have htrim : Text.trim (name.map Char.toLower) = (Text.trim name).map Char.toLower := by
    have hblank : Text.isBlank ∘ Char.toLower = Text.isBlank := funext isBlank_toLower
    simp only [Text.trim, Text.trimEnd, Text.trimStart, ← List.map_reverse, List.dropWhile_map,
      hblank]
  have hlower : ((Text.trim name).map Char.toLower).flatMap lowerAlone =
      (Text.trim name).flatMap lowerAlone := by
    simp only [List.flatMap_map, lowerAlone_toLower]
  rw [ofName_eq_flatMap, htrim, hlower, ← ofName_eq_flatMap]

/-! ## Spellings -/

/-- Two spellings of one name: one becomes the other by such changes, in any number. -/
inductive Respelled : Text → Text → Prop where
  /-- Other separators, or more or fewer of them, between two parts that are not blank. -/
  | separators {a b gap gap' : Text} (ha : Text.HasInk a) (hb : Text.HasInk b) (hgap : IsGap gap)
      (hgap' : IsGap gap') : Respelled (a ++ gap ++ b) (a ++ gap' ++ b)
  /-- Other case of ASCII letters. -/
  | letters {s t : Text} (h : SameLetters s t) : Respelled s t
  /-- Blanks at the ends. -/
  | blanks {before t after : Text} (hbefore : ∀ c ∈ before, Text.isBlank c)
      (hafter : ∀ c ∈ after, Text.isBlank c) : Respelled (before ++ t ++ after) t
  | symm {s t : Text} (h : Respelled s t) : Respelled t s
  | trans {s t u : Text} (h : Respelled s t) (h' : Respelled t u) : Respelled s u

/-- All spellings of a name have one identifier. -/
theorem ofName_eq_of_respelled (h : Respelled s t) : ofName s = ofName t := by
  induction h with
  | separators ha hb hgap hgap' => rw [ofName_gap ha hb hgap, ofName_gap ha hb hgap']
  | @letters s t h => rw [← ofName_map_toLower s, sameLetters_iff.1 h, ofName_map_toLower t]
  | @blanks before t after hbefore hafter =>
    rw [ofName_eq_flatMap, Text.trim_append_blanks hbefore hafter, ← ofName_eq_flatMap]
  | symm _ ih => exact ih.symm
  | trans _ _ ih ih' => exact ih.trans ih'

/-- A tab in front, another case and other separators, the first of which decides which small sigma it
stands behind. -/
theorem ofName_eq_of_respelled_sigma :
    Respelled "\tAΣ.1st Key".toList "aΣ _1ST-kEY".toList ∧
      ofName "\tAΣ.1st Key".toList = ofName "aΣ _1ST-kEY".toList ∧
      ofName "aΣ _1ST-kEY".toList = "a1StKey".toList := by
  have hblanks : Respelled (['\t'] ++ "AΣ.1st Key".toList ++ []) "AΣ.1st Key".toList :=
    .blanks (by simpa using by decide) (by simp)
  have hletters : Respelled "AΣ.1st Key".toList "aΣ.1ST kEY".toList :=
    .letters (sameLetters_iff.2 (by decide))
  have hfirst : Respelled ("aΣ".toList ++ ['.'] ++ "1ST kEY".toList)
      ("aΣ".toList ++ [' ', '_'] ++ "1ST kEY".toList) :=
    .separators ⟨'a', by decide, by decide⟩ ⟨'1', by decide, by decide⟩ ⟨by simp, by simp [isSeparator]⟩
      ⟨by simp, by simp [isSeparator]⟩
  have hsecond : Respelled ("aΣ _1ST".toList ++ [' '] ++ "kEY".toList)
      ("aΣ _1ST".toList ++ ['-'] ++ "kEY".toList) :=
    .separators ⟨'a', by decide, by decide⟩ ⟨'k', by decide, by decide⟩ ⟨by simp, by simp [isSeparator]⟩
      ⟨by simp, by simp [isSeparator]⟩
  have hspellings : Respelled "\tAΣ.1st Key".toList "aΣ _1ST-kEY".toList :=
    hblanks.trans (hletters.trans (hfirst.trans hsecond))
  exact ⟨hspellings, ofName_eq_of_respelled hspellings, by decide +kernel⟩

end Identifier
end ExprMigration
