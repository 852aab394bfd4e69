import ExprMigration.Proofs.FileTree.Continuation

/-!
# Paths below a root

What is behind a root in a path that continues it by names are these names, however the root is written
(`Path.below?_continued`): the root is parted off by its components, and no part of a name is taken for
an idle part.  Such a path ends with the last of the names (`Path.fileName_continued`).
-/

namespace ExprMigration

variable {base : Text} {names : List Text}

/-! ## Splitting -/

theorem Text.join_cons_cons (sep piece next : Text) (rest : List Text) :
    join sep (piece :: next :: rest) = piece ++ sep ++ join sep (next :: rest) :=
  List.intercalate_cons_cons

theorem Text.splitOn_join {sep : Char} {parts : List Text} (hne : parts ≠ []) (h : ∀ p ∈ parts, sep ∉ p) :
    splitOn sep (join [sep] parts) = parts := by
  induction parts with
  | nil => exact absurd rfl hne
  | cons part rest ih =>
    obtain ⟨hpart, hrest⟩ := List.forall_mem_cons.1 h
    rcases rest with _ | ⟨next, rest⟩
    · simpa [join] using splitOn_of_notMem hpart
    · rw [join_cons_cons, List.append_assoc, List.singleton_append, splitOn_append,
        splitOn_of_notMem hpart, ih (by simp) hrest]
      rfl

theorem Text.notMem_of_mem_splitOn {sep : Char} {t part : Text} (h : part ∈ splitOn sep t) :
    sep ∉ part := by
  induction t generalizing part with
  | nil => simp_all [splitOn]
  | cons c cs ih =>
    simp only [splitOn] at h
    by_cases hc : c = sep
    · rcases List.mem_cons.1 (by simpa [hc] using h) with rfl | h
      · simp
      · exact ih h
    · rcases hsplit : splitOn sep cs with _ | ⟨piece, rest⟩
      · exact absurd hsplit (splitOn_ne_nil sep cs)
      rw [hsplit] at ih
      rcases List.mem_cons.1 (by simpa [hc, hsplit] using h) with rfl | h
      · simpa [Ne.symm hc] using ih List.mem_cons_self
      · exact ih (List.mem_cons_of_mem _ h)

theorem Text.length_splitOn_le (sep : Char) (t : Text) : (splitOn sep t).length ≤ t.length + 1 := by
  induction t with
  | nil => simp [splitOn]
  | cons c cs ih =>
    rcases hsplit : splitOn sep cs with _ | ⟨piece, rest⟩
    · exact absurd hsplit (splitOn_ne_nil sep cs)
    rw [hsplit] at ih
    by_cases hc : c = sep <;> simp [splitOn, hc, hsplit] at ih ⊢ <;> omega

namespace Path

theorem ofPart?_of_isName {name : Text} (hname : Location.isName name) :
    Component.ofPart? name = some (.name name) := by
  obtain ⟨hne, hdot, hdots, -⟩ := Location.isName_iff.1 hname
  simp [Component.ofPart?, hne, hdot, hdots]

/-- Names make as many components. -/
theorem components_join_names (hnames : ∀ n ∈ names, Location.isName n) :
    components (Text.join ['/'] names) = names.map Component.name := by
  rcases names with _ | ⟨first, rest⟩
  · rfl
  obtain ⟨hfirst, hrest⟩ := List.forall_mem_cons.1 hnames
  obtain ⟨hne, hdot, -, -⟩ := Location.isName_iff.1 hfirst
  have hslash : ∀ n ∈ first :: rest, '/' ∉ n := fun n hn =>
    (Location.isName_iff.1 (hnames n hn)).2.2.2
  have hinner : rest.filterMap Component.ofPart? = rest.map Component.name := by
    clear hnames hslash
    induction rest with
    | nil => rfl
    | cons n rest ih =>
      obtain ⟨hn, hrest⟩ := List.forall_mem_cons.1 hrest
      simp [ofPart?_of_isName hn, ih hrest]
  rw [components, Text.splitOn_join (by simp) hslash]
  simp [hne, hdot, ofPart?_of_isName hfirst, hinner]

/-! ## Parting off a root -/

theorem splitOn_continued (hbase : base ≠ []) (hlast : base.getLast? ≠ some '/')
    (hnames : ∀ n ∈ names, Location.isName n) :
    (names.foldl join base).splitOn '/' = base.splitOn '/' ++ names := by
  induction names generalizing base with
  | nil => simp
  | cons n rest ih =>
    obtain ⟨hn, hrest⟩ := List.forall_mem_cons.1 hnames
    obtain ⟨trunk, rfl | rfl, hjoin⟩ := exists_trunk hbase hn
    · have hslash : '/' ∉ n := (Location.isName_iff.1 hn).2.2.2
      rw [List.foldl_cons, ih (join_ne_nil hbase hn) (getLast?_join_ne hbase hn) hrest, hjoin,
        Text.splitOn_append, Text.splitOn_of_notMem hslash]
      simp
    · simp at hlast

/-- A path that is continued by names has the parts of the path, but for an empty one at its end, and
then the names. -/
theorem exists_parts (hbase : base ≠ []) (hnames : ∀ n ∈ names, Location.isName n) :
    ∃ first rest kept, base.splitOn '/' = first :: rest ∧
      (names.foldl join base).splitOn '/' = first :: (kept ++ names) ∧
      kept.filterMap Component.ofPart? = rest.filterMap Component.ofPart? ∧
      (first = [] → rest ≠ [] ∧ kept ++ names ≠ []) := by
  -- a text of one empty part is empty
  have hempty {t : Text} (ht : t ≠ []) : t.splitOn '/' ≠ [[]] := fun hsplit => by
    rw [← Text.join_splitOn '/' t, hsplit] at ht
    exact ht rfl
  rcases names with _ | ⟨n, names⟩
  · rcases hsplit : base.splitOn '/' with _ | ⟨first, rest⟩
    · exact absurd hsplit (Text.splitOn_ne_nil '/' base)
    · refine ⟨first, rest, rest, rfl, by simpa using hsplit, rfl, ?_⟩
      rintro rfl
      have hrest : rest ≠ [] := by
        rintro rfl
        exact hempty hbase hsplit
      exact ⟨hrest, by simpa using hrest⟩
  obtain ⟨hn, hnames⟩ := List.forall_mem_cons.1 hnames
  obtain ⟨trunk, htrunk, hjoin⟩ := exists_trunk hbase hn
  have hslash : '/' ∉ n := (Location.isName_iff.1 hn).2.2.2
  rcases hsplit : trunk.splitOn '/' with _ | ⟨first, kept⟩
  · exact absurd hsplit (Text.splitOn_ne_nil '/' trunk)
  have hcontinued : ((n :: names).foldl join base).splitOn '/' = first :: (kept ++ n :: names) := by
    rw [List.foldl_cons, splitOn_continued (join_ne_nil hbase hn) (getLast?_join_ne hbase hn) hnames,
      hjoin, Text.splitOn_append, Text.splitOn_of_notMem hslash, hsplit]
    simp
  rcases htrunk with rfl | rfl
  · refine ⟨first, kept, kept, hsplit, hcontinued, rfl, ?_⟩
    rintro rfl
    refine ⟨?_, by simp⟩
    rintro rfl
    exact hempty hbase hsplit
  · refine ⟨first, kept ++ [[]], kept, ?_, hcontinued, ?_, fun _ => ⟨by simp, by simp⟩⟩
    · rw [Text.splitOn_append, hsplit]
      rfl
    · simp [Component.ofPart?]

/-- Parting off components leaves what is behind them, with the parts in front of it that stand for
nothing. -/
theorem partsAfter?_append (front parts : List Text) :
    ∃ idle, (∀ p ∈ idle, Component.ofPart? p = none) ∧
      partsAfter? (front.filterMap Component.ofPart?) (front ++ parts) = some (idle ++ parts) := by
  induction front with
  | nil => exact ⟨[], by simp, by simp [partsAfter?]⟩
  | cons part front ih =>
    obtain ⟨idle, hidle, hafter⟩ := ih
    rcases hpart : Component.ofPart? part with _ | component
    · rw [List.filterMap_cons_none hpart]
      rcases hcomponents : front.filterMap Component.ofPart? with _ | ⟨component, components⟩
      · refine ⟨part :: front, ?_, rfl⟩
        exact List.forall_mem_cons.2 ⟨hpart, List.filterMap_eq_nil_iff.1 hcomponents⟩
      · refine ⟨idle, hidle, ?_⟩
        rw [← hafter, hcomponents, List.cons_append, partsAfter?, hpart]
    · rw [List.filterMap_cons_some hpart]
      exact ⟨idle, hidle, by simp [partsAfter?, hpart, hafter]⟩

theorem dropIdle_append_names {idle : List Text} (hidle : ∀ p ∈ idle, Component.ofPart? p = none)
    (hnames : ∀ n ∈ names, Location.isName n) :
    dropIdleEnd (dropIdle (idle ++ names)) = names := by
  have hdrop (ns : List Text) (hns : ∀ n ∈ ns, Location.isName n) : dropIdle ns = ns := by
    rcases ns with _ | ⟨n, ns⟩
    · rfl
    · have hn := ofPart?_of_isName (hns n List.mem_cons_self)
      simp [dropIdle, hn]
  have hfront : dropIdle (idle ++ names) = names := by
    rw [dropIdle, List.dropWhile_append_of_pos fun p hp => by simp [hidle p hp]]
    exact hdrop names hnames
  rw [hfront, dropIdleEnd, hdrop names.reverse (by simpa using hnames), List.reverse_reverse]

/-- What is behind a root in a path that continues it by names are the names. -/
theorem below?_continued (hbase : base ≠ []) (hnames : ∀ n ∈ names, Location.isName n) :
    below? base (names.foldl join base) = some (Text.join ['/'] names) := by
  obtain ⟨first, rest, kept, hsplit, hcontinued, hkept, hfirst⟩ := exists_parts hbase hnames
  obtain ⟨idle, hidle, hafter⟩ := partsAfter?_append kept names
  have hnames' := dropIdle_append_names hidle hnames
  rw [hkept] at hafter
  by_cases hnil : first = []
  · obtain ⟨hrest, hparts⟩ := hfirst hnil
    have hcomponents : components base = .root :: rest.filterMap Component.ofPart? := by
      simp [components, hsplit, hnil, hrest]
    simp [below?, hcomponents, hcontinued, hnil, hparts, hafter, hnames']
  · by_cases hhere : first = ['.']
    · have hcomponents : components base = .here :: rest.filterMap Component.ofPart? := by
        simp [components, hsplit, hhere]
      simp [below?, hcomponents, hcontinued, hhere, hafter, hnames']
    · obtain ⟨component, hcomponent⟩ : ∃ component, Component.ofPart? first = some component := by
        by_cases hup : first = ['.', '.'] <;> simp [Component.ofPart?, hnil, hhere, hup]
      have hcomponents : components base = component :: rest.filterMap Component.ofPart? := by
        simp [components, hsplit, hnil, hhere, hcomponent]
      have hwhole : partsAfter? (component :: rest.filterMap Component.ofPart?)
          (first :: (kept ++ names)) = some (idle ++ names) := by
        simp [partsAfter?, hcomponent, hafter]
      simp [below?, hcomponents, hcontinued, hnil, hhere, hwhole, hnames']

/-- A path that is continued by names ends with the last of them. -/
theorem fileName_continued (hbase : base ≠ []) (hnames : ∀ n ∈ names, Location.isName n) :
    fileName (names.foldl join base) = names.getLast?.getD (fileName base) := by
  rcases List.eq_nil_or_concat names with rfl | ⟨init, last, rfl⟩
  · rfl
  · rw [fileName, FileTree.components_continued hbase hnames]
    simp

end Path
end ExprMigration
