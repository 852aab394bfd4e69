import ExprMigration.Config.Basic
import ExprMigration.Proofs.FileTree.Relative
import ExprMigration.Proofs.Text.Trim

/-!
# Extensions of a configuration

Each piece of the setting between commas stands for one extension (`extensionOf`), which is left out if
nothing is left of it.  The blanks around a piece are taken off before the dots in front of it, so that a
blank behind these dots comes to stand in front: such a piece has a gap.  Without gaps the extensions are
in normal form, are read back from a list of them, and are there if a piece holds anything but dots and
blanks; `extensions_normal_iff` says what becomes of each of these where there is a gap.
-/

namespace ExprMigration
namespace Config

variable {piece item : Text} {items : List Text} {config : Config}

/-! ## Pieces -/

/-- The extension that a piece stands for. -/
def extensionOf (piece : Text) : Text := (Text.trim piece).dropWhile (· == '.')

/-- A piece has a gap if behind the dots that it begins with there is a blank, and something else behind
that. -/
def HasGap (piece : Text) : Prop :=
  ∃ before dots c after, (∀ b ∈ before, Text.isBlank b) ∧ dots ≠ [] ∧ (∀ d ∈ dots, d = '.') ∧
    Text.isBlank c ∧ Text.HasInk after ∧ piece = before ++ dots ++ c :: after

/-- Whether there is anything but dots and blanks in a text. -/
def HasLetters (t : Text) : Prop := ∃ c ∈ t, c ≠ '.' ∧ Text.isBlank c = false

instance : DecidablePred HasLetters := fun t => List.decidableBEx _ t

/-- An extension in normal form. -/
structure IsNormal (item : Text) : Prop where
  ne_nil : item ≠ []
  comma : ',' ∉ item
  head : ∀ c, item.head? = some c → c ≠ '.' ∧ Text.isBlank c = false
  last : ∀ c, item.getLast? = some c → Text.isBlank c = false

theorem extensions_eq (config : Config) : config.extensions =
    ((Text.splitOn ',' config.fileExtensions).map extensionOf).filter (· ≠ []) := by
  rw [extensions, Text.items]
  induction Text.splitOn ',' config.fileExtensions with
  | nil => rfl
  | cons piece rest ih =>
    by_cases hblank : Text.trim piece = []
    · simpa [extensionOf, hblank] using ih
    · simp only [List.map_cons, List.filter_cons, ne_eq, hblank, not_false_eq_true, decide_true,
        if_true, ih]
      rfl

theorem mem_extensions_iff : item ∈ config.extensions ↔
    item ≠ [] ∧ ∃ piece ∈ Text.splitOn ',' config.fileExtensions, extensionOf piece = item := by
  rw [extensions_eq, List.mem_filter, List.mem_map, decide_eq_true_eq, and_comm]

theorem exists_dots_append (piece : Text) :
    ∃ dots, (∀ d ∈ dots, d = '.') ∧ Text.trim piece = dots ++ extensionOf piece :=
  ⟨(Text.trim piece).takeWhile (· == '.'),
    fun _ hd => by simpa using List.mem_takeWhile_imp hd,
    List.takeWhile_append_dropWhile.symm⟩

theorem extensionOf_sublist (piece : Text) : (extensionOf piece).Sublist piece := by
  obtain ⟨before, after, -, -, hpiece⟩ := Text.exists_append_trim_append piece
  obtain ⟨dots, -, htrim⟩ := exists_dots_append piece
  have hpart : extensionOf piece <:+: piece :=
    ⟨before ++ dots, after, by rw [List.append_assoc before, ← htrim, ← hpiece]⟩
  exact hpart.sublist

theorem comma_notMem_extensionOf (h : piece ∈ Text.splitOn ',' config.fileExtensions) :
    ',' ∉ extensionOf piece :=
  fun hcomma => Text.notMem_of_mem_splitOn h ((extensionOf_sublist piece).subset hcomma)

theorem head?_extensionOf_ne (piece : Text) : (extensionOf piece).head? ≠ some '.' := by
  intro h
  have hhead := List.head?_dropWhile_not (· == '.') (Text.trim piece)
  rw [← extensionOf, h] at hhead
  simp at hhead

theorem isBlank_of_getLast?_extensionOf {c : Char} (h : (extensionOf piece).getLast? = some c) :
    Text.isBlank c = false := by
  obtain ⟨dots, -, htrim⟩ := exists_dots_append piece
  refine Text.isBlank_of_getLast?_trim (t := piece) ?_
  rw [htrim, List.getLast?_append, h]
  rfl

/-- A gap, and nothing else, makes a blank stand in front. -/
theorem isBlank_head?_extensionOf_iff :
    (∃ c, (extensionOf piece).head? = some c ∧ Text.isBlank c) ↔ HasGap piece := by
  constructor
  · rintro ⟨c, hhead, hc⟩
    obtain ⟨rest, hrest⟩ := List.head?_eq_some_iff.1 hhead
    obtain ⟨dots, hdots, htrim⟩ := exists_dots_append piece
    obtain ⟨before, after, hbefore, hafter, hpiece⟩ := Text.exists_append_trim_append piece
    have hne : dots ≠ [] := by
      rintro rfl
      have hblank := Text.isBlank_of_head?_trim (t := piece) (by rw [htrim]; exact hhead)
      simp [hc] at hblank
    -- the last character of the extension is not blank, so it stands behind `c`
    have hink : Text.HasInk rest := by
      obtain ⟨d, hd⟩ : ∃ d, (extensionOf piece).getLast? = some d :=
        Option.ne_none_iff_exists'.1 (by simp [hrest])
      have hblank := isBlank_of_getLast?_extensionOf hd
      have hmem : d ∈ c :: rest := hrest ▸ List.mem_of_getLast? hd
      rcases List.mem_cons.1 hmem with rfl | hmem
      · simp [hc] at hblank
      · exact ⟨d, hmem, hblank⟩
    obtain ⟨d, hd, hblank⟩ := hink
    refine ⟨before, dots, c, rest ++ after, hbefore, hne, hdots, hc,
      ⟨d, List.mem_append_left _ hd, hblank⟩, ?_⟩
    rw [hpiece, htrim, hrest]
    simp
  · rintro ⟨before, dots, c, after, hbefore, hne, hdots, hc, hink, rfl⟩
    have hdot : Text.HasInk dots := by
      obtain ⟨d, hd⟩ := List.exists_mem_of_ne_nil dots hne
      exact ⟨d, hd, hdots d hd ▸ by decide⟩
    have hdotsStart : Text.trimStart dots = dots := by
      obtain ⟨d, rest, rfl⟩ := List.exists_cons_of_ne_nil hne
      obtain rfl : d = '.' := hdots d List.mem_cons_self
      rfl
    have hcdot : c ≠ '.' := by
      rintro rfl
      exact absurd hc (by decide)
    have htrim : Text.trim (before ++ dots ++ c :: after) = dots ++ c :: Text.trimEnd after := by
      rw [Text.trim, List.append_assoc, Text.trimStart_append_of_blank hbefore,
        Text.trimStart_append_of_hasInk hdot, hdotsStart, List.append_cons,
        Text.trimEnd_append_of_hasInk hink, ← List.append_cons]
    refine ⟨c, ?_, hc⟩
    rw [extensionOf, htrim, List.dropWhile_append_of_pos (by simpa using hdots)]
    simp [hcdot]

theorem extensionOf_ne_nil_iff : extensionOf piece ≠ [] ↔ HasLetters piece ∨ HasGap piece := by
  constructor
  · intro h
    obtain ⟨c, hc⟩ := Option.ne_none_iff_exists'.1 (mt List.head?_eq_none_iff.1 h)
    by_cases hblank : Text.isBlank c
    · exact .inr (isBlank_head?_extensionOf_iff.1 ⟨c, hc, hblank⟩)
    · refine .inl ⟨c, (extensionOf_sublist piece).subset (List.mem_of_mem_head? hc), ?_,
        by simpa using hblank⟩
      rintro rfl
      exact head?_extensionOf_ne piece hc
  · rintro (⟨c, hmem, hdot, hblank⟩ | hgap)
    · obtain ⟨before, after, hbefore, hafter, hpiece⟩ := Text.exists_append_trim_append piece
      have htrim : c ∈ Text.trim piece := by
        rw [hpiece, List.mem_append, List.mem_append] at hmem
        rcases hmem with (hmem | hmem) | hmem
        · simp [hbefore c hmem] at hblank
        · exact hmem
        · simp [hafter c hmem] at hblank
      simpa [extensionOf] using ⟨c, htrim, hdot⟩
    · obtain ⟨c, hc, -⟩ := isBlank_head?_extensionOf_iff.2 hgap
      rintro hnil
      simp [hnil] at hc

/-! ## Lists of extensions -/

theorem isNormal_iff (h : item ∈ config.extensions) :
    IsNormal item ↔ ∀ c, item.head? = some c → Text.isBlank c = false := by
  obtain ⟨hne, piece, hpiece, rfl⟩ := mem_extensions_iff.1 h
  refine ⟨fun hnormal c hc => (hnormal.head c hc).2, fun hhead => ⟨hne,
    comma_notMem_extensionOf hpiece, fun c hc => ⟨?_, hhead c hc⟩,
    fun c => isBlank_of_getLast?_extensionOf⟩⟩
  rintro rfl
  exact head?_extensionOf_ne piece hc

theorem isNormal_extensions_iff : (∀ item ∈ config.extensions, IsNormal item) ↔
    ∀ piece ∈ Text.splitOn ',' config.fileExtensions, ¬ HasGap piece := by
  constructor
  · intro h piece hpiece hgap
    obtain ⟨c, hc, hblank⟩ := isBlank_head?_extensionOf_iff.2 hgap
    have hmem : extensionOf piece ∈ config.extensions :=
      mem_extensions_iff.2 ⟨extensionOf_ne_nil_iff.2 (.inr hgap), piece, hpiece, rfl⟩
    have hfalse := ((h _ hmem).head c hc).2
    simp [hblank] at hfalse
  · intro h item hitem
    refine (isNormal_iff hitem).2 fun c hc => ?_
    obtain ⟨-, piece, hpiece, rfl⟩ := mem_extensions_iff.1 hitem
    by_contra hblank
    exact h piece hpiece (isBlank_head?_extensionOf_iff.1 ⟨c, hc, by simpa using hblank⟩)

/-! ## Reading a list of extensions -/

theorem IsNormal.extensionOf_eq (h : IsNormal item) : extensionOf item = item := by
  obtain ⟨c, hc⟩ := Option.ne_none_iff_exists'.1 (mt List.head?_eq_none_iff.1 h.ne_nil)
  obtain ⟨d, hd⟩ := Option.ne_none_iff_exists'.1 (mt List.getLast?_eq_none_iff.1 h.ne_nil)
  rw [extensionOf, Text.trim_eq_self (h.head c hc).2 (h.last d hd) hc hd]
  obtain ⟨rest, rfl⟩ := List.head?_eq_some_iff.1 hc
  simp [(h.head c hc).1]

/-- An extension that is read as itself begins with no blank: trimming has taken nothing off. -/
theorem isBlank_of_extensionOf_eq {c : Char} (h : extensionOf item = item)
    (hc : item.head? = some c) : Text.isBlank c = false := by
  have htrim : Text.trim item = item := by
    obtain ⟨before, after, -, -, hitem⟩ := Text.exists_append_trim_append item
    obtain ⟨dots, -, hdots⟩ := exists_dots_append item
    have hlength := congrArg List.length hitem
    have hlength' := congrArg List.length hdots
    have hpart : Text.trim item <:+: item := ⟨before, after, hitem.symm⟩
    refine hpart.eq_of_length ?_
    rw [h] at hlength'
    simp at hlength hlength'
    omega
  exact Text.isBlank_of_head?_trim (htrim ▸ hc)

/-- If the values of a function, without some of them, are the texts that it was taken of, it has
changed none of these. -/
theorem eq_of_filter_map_eq {f : Text → Text} {p : Text → Bool}
    (h : (items.map f).filter p = items) : ∀ item ∈ items, f item = item := by
  induction items with
  | nil => simp
  | cons item rest ih =>
    rw [List.map_cons, List.filter_cons] at h
    split at h
    · obtain ⟨hitem, hrest⟩ := List.cons.inj h
      exact List.forall_mem_cons.2 ⟨hitem, ih hrest⟩
    · -- one item less cannot be as many
      have hlength := congrArg List.length h
      have hle := List.length_filter_le p (rest.map f)
      simp at hlength hle
      omega

/-- The configuration with its extensions as the text of the setting. -/
def respelled (config : Config) : Config :=
  { config with fileExtensions := Text.join [','] config.extensions }

theorem extensions_respelled (config : Config) : config.respelled.extensions =
    (config.extensions.map extensionOf).filter (· ≠ []) := by
  rw [extensions_eq, respelled]
  by_cases hnil : config.extensions = []
  · rw [hnil]
    rfl
  · rw [Text.splitOn_join hnil]
    intro item hitem
    obtain ⟨-, piece, hpiece, rfl⟩ := mem_extensions_iff.1 hitem
    exact comma_notMem_extensionOf hpiece

theorem extensions_respelled_eq_iff : config.respelled.extensions = config.extensions ↔
    ∀ item ∈ config.extensions, IsNormal item := by
  rw [extensions_respelled]
  constructor
  · intro h item hitem
    exact (isNormal_iff hitem).2 fun c hc =>
      isBlank_of_extensionOf_eq (eq_of_filter_map_eq h item hitem) hc
  · intro h
    have hmap : config.extensions.map extensionOf = config.extensions :=
      (List.map_congr_left fun item hitem => (h item hitem).extensionOf_eq).trans (List.map_id _)
    rw [hmap, List.filter_eq_self]
    exact fun item hitem => by simpa using (h item hitem).ne_nil

/-! ## Checking a configuration -/

theorem validate_eq_ok_iff : config.validate = .ok () ↔
    (∃ patterns, config.ignorePatterns = .ok patterns) ∧ config.extensions ≠ [] := by
  rcases hpatterns : config.ignorePatterns with flaw | patterns
  · simp [validate, hpatterns]
  · by_cases hnil : config.extensions = [] <;> simp [validate, hpatterns, hnil]

theorem extensions_ne_nil_iff : config.extensions ≠ [] ↔
    ∃ piece ∈ Text.splitOn ',' config.fileExtensions, HasLetters piece ∨ HasGap piece := by
  constructor
  · intro h
    obtain ⟨item, hitem⟩ := List.exists_mem_of_ne_nil _ h
    obtain ⟨hne, piece, hpiece, rfl⟩ := mem_extensions_iff.1 hitem
    exact ⟨piece, hpiece, extensionOf_ne_nil_iff.1 hne⟩
  · rintro ⟨piece, hpiece, h⟩
    exact List.ne_nil_of_mem (mem_extensions_iff.2 ⟨extensionOf_ne_nil_iff.2 h, piece, hpiece, rfl⟩)

/-- An extension is not empty, holds no comma, does not begin with a dot and does not end with a blank.
All are in normal form exactly if no piece of the setting has a gap, and exactly then they are read back
from a list of them.  A configuration with proper patterns is accepted exactly if a piece holds anything
but dots and blanks, or has a gap. -/
theorem extensions_normal_iff (config : Config) :
    (∀ item ∈ config.extensions, item ≠ [] ∧ ',' ∉ item ∧ item.head? ≠ some '.' ∧
      ∀ c, item.getLast? = some c → Text.isBlank c = false) ∧
    ((∀ item ∈ config.extensions, IsNormal item) ↔
      ∀ piece ∈ Text.splitOn ',' config.fileExtensions, ¬ HasGap piece) ∧
    (config.respelled.extensions = config.extensions ↔
      ∀ piece ∈ Text.splitOn ',' config.fileExtensions, ¬ HasGap piece) ∧
    (config.validate = .ok () ↔ (∃ patterns, config.ignorePatterns = .ok patterns) ∧
      ∃ piece ∈ Text.splitOn ',' config.fileExtensions, HasLetters piece ∨ HasGap piece) := by
  refine ⟨fun item hitem => ?_, isNormal_extensions_iff,
    extensions_respelled_eq_iff.trans isNormal_extensions_iff,
    validate_eq_ok_iff.trans (and_congr_right' extensions_ne_nil_iff)⟩
  obtain ⟨hne, piece, hpiece, rfl⟩ := mem_extensions_iff.1 hitem
  exact ⟨hne, comma_notMem_extensionOf hpiece, head?_extensionOf_ne piece,
    fun c => isBlank_of_getLast?_extensionOf⟩

/-- A setting with dots in front of pieces and blanks around them. -/
def dotted : Config := { fileExtensions := "..yaml, sh,\t.json ".toList }

/-- No piece of it has a gap. -/
theorem extensions_normal_dotted :
    "json".toList ∈ dotted.extensions ∧ "json".toList.head? ≠ some '.' ∧ IsNormal "json".toList ∧
    dotted.respelled.extensions = dotted.extensions ∧
    ∀ piece ∈ Text.splitOn ',' dotted.fileExtensions, ¬ HasGap piece := by
  obtain ⟨hitems, hnormal, hrespelled, -⟩ := extensions_normal_iff dotted
  have hmem : "json".toList ∈ dotted.extensions := by decide +kernel
  have hback : dotted.respelled.extensions = dotted.extensions := by decide +kernel
  have hgap := hrespelled.1 hback
  exact ⟨hmem, (hitems _ hmem).2.2.1, hnormal.2 hgap _ hmem, hback, hgap⟩

/-- A blank between two dots is taken for an extension, though there is nothing but dots and blanks: it
begins with a blank, is not read back, and the configuration is accepted. -/
theorem extensions_blankBetweenDots :
    let config : Config := { fileExtensions := ". .".toList }
    " .".toList ∈ config.extensions ∧ ¬ IsNormal " .".toList ∧
    config.respelled.extensions ≠ config.extensions ∧ config.validate = .ok () ∧
    ¬ ∃ piece ∈ Text.splitOn ',' config.fileExtensions, HasLetters piece := by
  refine ⟨by decide +kernel, fun h => ?_, by decide +kernel, by decide +kernel, by decide +kernel⟩
  exact absurd (h.head ' ' rfl).2 (by decide)

end Config
end ExprMigration
