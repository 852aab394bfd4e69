import ExprMigration.Proofs.FileTree.Grounded
import ExprMigration.Proofs.Migration.Applied

/-!
# What a run leaves alone

A run goes one of five ways (`Course`), and only the last of them writes.  What it writes are the files
of its scan, which are the selected files that hold a token, each of which gets its own text
modernised; every other location of the tree keeps its entry, and none is made or removed
(`migrate_frame`).  Where every path that can be read can be written over, a run that fails has written
nothing (`tree_migrate_of_error`).
-/

namespace ExprMigration

variable {resolver : Resolver} {options : MigrationOptions} {directory : Location}
  {tree : FileTree} {race : Nat} {outcome : MigrationOutcome}

/-! ## The frame of a run -/

/-- What an applied run leaves at every location of the tree. -/
structure Rewritten (resolver : Resolver) (directory : Location) (paths : List Text)
    (scan : CorpusScan) (tree after : FileTree) : Prop where
  /-- The files of the scan are the selected files that hold a token. -/
  files : ∀ path tokens, (path, tokens) ∈ scan.files ↔ path ∈ paths ∧ tokens ≠ [] ∧
    ∃ t, tree.read directory path = .ok t ∧ tokens = Token.tokens t
  /-- Each of them holds its own text modernised. -/
  rewritten : ∀ f ∈ scan.files, ∃ place before, tree.locate .content directory f.1 = .ok place ∧
    tree.get? place = some (.file (.text before)) ∧
    after.get? place = some (.file (.text (resolver.modernise before).1))
  /-- Every other location has the entry that it had. -/
  frame : ∀ place, (∀ f ∈ scan.files, tree.locate .content directory f.1 ≠ .ok place) →
    after.get? place = tree.get? place
  /-- No entry is made or removed, or becomes one of another kind. -/
  shape : after.shape = tree.shape

theorem rewritten_of_ok {paths : List Text} {scan : CorpusScan} {summary : ChangeSummary}
    (hpaths : options.files tree directory = .ok paths)
    (hscan : CorpusScan.ofPaths tree directory paths race = .ok scan)
    (h : (scan.apply resolver directory tree).result = .ok summary) :
    Rewritten resolver directory paths scan tree (scan.apply resolver directory tree).tree := by
  have hfiles (path : Text) (tokens : List Text) : (path, tokens) ∈ scan.files ↔ _ :=
    CorpusScan.mem_files_of_ofPaths (Selection.pairwise_not_same hpaths) hscan
  obtain ⟨hrewritten, hframe, hshape⟩ := onlyRewritten_of_ok (apart_of_ofPaths hpaths hscan) h
  refine ⟨hfiles, ?_, hframe, hshape⟩
  rintro ⟨path, tokens⟩ hf
  obtain ⟨_, _, t, hread, rfl⟩ := (hfiles path tokens).1 hf
  obtain ⟨place, before, hlocate, hget, hafter⟩ := hrewritten _ hf
  have hbefore : tree.read directory path = .ok before :=
    FileTree.read_eq_ok_iff.2 ⟨place, hlocate, hget⟩
  obtain rfl : t = before := Except.ok.inj (hread.symm.trans hbefore)
  exact ⟨place, t, hlocate, hget, hafter⟩

/-- A scan holds no file exactly if no scanned file holds a token. -/
theorem CorpusScan.files_eq_nil_iff {paths : List Text} {scan : CorpusScan}
    (hpaths : options.files tree directory = .ok paths)
    (hscan : CorpusScan.ofPaths tree directory paths race = .ok scan) :
    scan.files = [] ↔
      ∀ path ∈ paths, ∀ t, tree.read directory path = .ok t → Token.tokens t = [] := by
  have hfiles {path : Text} {tokens : List Text} : (path, tokens) ∈ scan.files ↔ _ :=
    CorpusScan.mem_files_of_ofPaths (Selection.pairwise_not_same hpaths) hscan
  constructor
  · intro hnil path hpath t hread
    by_contra hne
    have hmem := hfiles.2 ⟨hpath, hne, t, hread, rfl⟩
    simp [hnil] at hmem
  · intro hall
    rw [List.eq_nil_iff_forall_not_mem]
    rintro ⟨path, tokens⟩ hmem
    obtain ⟨hpath, hne, t, hread, rfl⟩ := hfiles.1 hmem
    exact hne (hall path hpath t hread)

/-- A run that succeeds finds nothing exactly if no selected file holds a token.  Then, and when it is
dry, the tree stays as it was; when it is applied, the files of its scan hold their own texts
modernised, and everything else stays as it was. -/
theorem migrate_frame (h : (migrate resolver options directory tree race).result = .ok outcome) :
    ∃ paths, options.files tree directory = .ok paths ∧
      (∀ path ∈ paths, ∃ t, tree.read directory path = .ok t) ∧
      ((∃ selected, outcome = .nothingFound selected) ↔
        ∀ path ∈ paths, ∀ t, tree.read directory path = .ok t → Token.tokens t = []) ∧
      (∀ selected, outcome = .nothingFound selected →
        (migrate resolver options directory tree race).tree = tree) ∧
      (∀ selected scan rows, outcome = .dryRun selected scan rows →
        (migrate resolver options directory tree race).tree = tree) ∧
      ∀ selected scan rows summary, outcome = .applied selected scan rows summary →
        Rewritten resolver directory paths scan tree
          (migrate resolver options directory tree race).tree := by
  have hcourse := course_migrate resolver options directory tree race
  generalize migrate resolver options directory tree race = run at h hcourse ⊢
  cases hcourse with
  | unselected => simp at h
  | unscanned => simp at h
  | nothingFound hpaths hscan hempty =>
    cases h
    refine ⟨_, hpaths, CorpusScan.exists_read_of_ofPaths hscan, ?_, by simp, by simp, by simp⟩
    simpa using (CorpusScan.files_eq_nil_iff hpaths hscan).1 hempty
  | dry hpaths hscan hfound =>
    cases h
    refine ⟨_, hpaths, CorpusScan.exists_read_of_ofPaths hscan, ?_, by simp, by simp, by simp⟩
    rw [← CorpusScan.files_eq_nil_iff hpaths hscan]
    simpa using hfound
  | @wet paths scan hpaths hscan hfound =>
    rcases hrun : (scan.apply resolver directory tree).result with error | summary
    · simp [hrun, Except.map] at h
    · obtain rfl : .applied paths.length scan (scan.describe resolver) summary = outcome := by
        simpa [hrun, Except.map] using h
      refine ⟨_, hpaths, CorpusScan.exists_read_of_ofPaths hscan, ?_, by simp, by simp, ?_⟩
      · rw [← CorpusScan.files_eq_nil_iff hpaths hscan]
        simpa using hfound
      · intro selected scan' rows summary' heq
        cases heq
        exact rewritten_of_ok hpaths hscan hrun

/-- A YAML file and, beside it, a file of notes with the same text. -/
def yamlAndNotes : FileTree :=
  (oneFile "${service.name}".toList).put ["notes.txt".toList]
    (.file (.text "${service.name}".toList))

/-- The YAML file is rewritten, and the notes are not. -/
theorem migrate_frame_notes :
    (migrate (.builtin .none) yamlBelow [] yamlAndNotes 0).tree.get? ["a.yaml".toList] =
      some (.file (.text "<+service.name>".toList)) ∧
    (migrate (.builtin .none) yamlBelow [] yamlAndNotes 0).tree.get? ["notes.txt".toList] =
      some (.file (.text "${service.name}".toList)) := by
  obtain ⟨outcome, hok⟩ : ∃ outcome,
      (migrate (.builtin .none) yamlBelow [] yamlAndNotes 0).result = .ok outcome :=
    exists_of_isOk (by rw [Resolver.builtin_eq]; decide +kernel)
  have hfiles : yamlBelow.files yamlAndNotes [] = .ok ["./a.yaml".toList] := by decide +kernel
  have hlocate : yamlAndNotes.locate .content [] "./a.yaml".toList = .ok ["a.yaml".toList] := by
    decide +kernel
  have hread : yamlAndNotes.read [] "./a.yaml".toList = .ok "${service.name}".toList := by
    decide +kernel
  have hyaml : yamlAndNotes.get? ["a.yaml".toList] =
      some (.file (.text "${service.name}".toList)) := by
    decide +kernel
  have htokens : Token.tokens "${service.name}".toList ≠ [] := by decide
  have hnew : ((Resolver.builtin .none).modernise "${service.name}".toList).1 =
      "<+service.name>".toList := by
    rw [Resolver.builtin_eq]
    decide +kernel
  obtain ⟨paths, hpaths, _, hnothing, _, _, happlied⟩ := migrate_frame hok
  obtain rfl : ["./a.yaml".toList] = paths := Except.ok.inj (hfiles.symm.trans hpaths)
  cases outcome with
  | nothingFound selected =>
    exact absurd (hnothing.1 ⟨selected, rfl⟩ _ (List.mem_singleton_self _) _ hread) htokens
  | dryRun selected scan rows =>
    obtain ⟨_, _, _, _, _, _, hnotDry⟩ := migrate_ok rfl hok
    exact absurd rfl (hnotDry selected scan rows)
  | applied selected scan rows summary =>
    have hrewritten := happlied selected scan rows summary rfl
    have hscan (f : Text × List Text) (hf : f ∈ scan.files) : f.1 = "./a.yaml".toList :=
      List.mem_singleton.1 ((hrewritten.files f.1 f.2).1 hf).1
    constructor
    · have hmem : ("./a.yaml".toList, Token.tokens "${service.name}".toList) ∈ scan.files :=
        (hrewritten.files _ _).2 ⟨List.mem_singleton_self _, htokens, _, hread, rfl⟩
      obtain ⟨place, before, hplace, hget, hafter⟩ := hrewritten.rewritten _ hmem
      obtain rfl : ["a.yaml".toList] = place := Except.ok.inj (hlocate.symm.trans hplace)
      obtain rfl : "${service.name}".toList = before := by
        have heq := hyaml.symm.trans hget
        simpa only [Option.some.injEq, Entry.file.injEq, Content.text.injEq] using heq
      rw [hafter, hnew]
    · rw [hrewritten.frame]
      · decide +kernel
      · intro f hf
        rw [hscan f hf, hlocate]
        decide

/-! ## Runs that fail, and dry runs -/

/-- Reading the files of a scan again does not fail, whatever is written in between. -/
theorem CorpusScan.result_apply_ne_unreadable {paths : List Text} {scan : CorpusScan}
    (hpaths : options.files tree directory = .ok paths)
    (hscan : CorpusScan.ofPaths tree directory paths race = .ok scan) (path : Text) (fault : Fault) :
    (scan.apply resolver directory tree).result ≠ .error (.unreadable path fault) := by
  intro h
  obtain ⟨_, _, _, hfault, _⟩ := exists_unwritable_of_error (scan.exists_read hpaths hscan) h
  cases hfault

/-- A run that succeeds has selected files and can read each of them. -/
theorem exists_read_of_migrate_ok
    (h : (migrate resolver options directory tree race).result = .ok outcome) :
    ∃ paths, options.files tree directory = .ok paths ∧
      ∀ path ∈ paths, ∃ t, tree.read directory path = .ok t := by
  have hcourse := course_migrate resolver options directory tree race
  generalize migrate resolver options directory tree race = run at h hcourse
  cases hcourse with
  | unselected => simp at h
  | unscanned => simp at h
  | nothingFound hpaths hscan => exact ⟨_, hpaths, CorpusScan.exists_read_of_ofPaths hscan⟩
  | dry hpaths hscan => exact ⟨_, hpaths, CorpusScan.exists_read_of_ofPaths hscan⟩
  | wet hpaths hscan => exact ⟨_, hpaths, CorpusScan.exists_read_of_ofPaths hscan⟩

/-- A scan can be applied to the tree that was scanned, if what can be read can be written over. -/
theorem CorpusScan.exists_apply {paths : List Text} {scan : CorpusScan}
    (hover : tree.OverwritesReadable directory)
    (hpaths : options.files tree directory = .ok paths)
    (hscan : CorpusScan.ofPaths tree directory paths race = .ok scan) :
    ∃ summary, (scan.apply resolver directory tree).result = .ok summary := by
  have hread := scan.exists_read hpaths hscan
  refine exists_applyFiles hread fun f hf => ?_
  obtain ⟨t, ht⟩ := hread f hf
  exact hover f.1 t ht

/-- A run that fails has not written anything, if it could write over what it could read. -/
theorem tree_migrate_of_error {error : CorpusError} (hover : tree.OverwritesReadable directory)
    (h : (migrate resolver options directory tree race).result = .error error) :
    (migrate resolver options directory tree race).tree = tree := by
  have hcourse := course_migrate resolver options directory tree race
  generalize migrate resolver options directory tree race = run at h hcourse ⊢
  cases hcourse with
  | unselected => rfl
  | unscanned => rfl
  | nothingFound => rfl
  | dry => rfl
  | @wet paths scan hpaths hscan =>
    obtain ⟨summary, hsummary⟩ : ∃ summary, (scan.apply resolver directory tree).result =
        .ok summary := CorpusScan.exists_apply hover hpaths hscan
    simp [hsummary, Except.map] at h

theorem tree_migrate_of_dry (hdry : options.dryRun = true) :
    (migrate resolver options directory tree race).tree = tree := by
  have hcourse := course_migrate resolver options directory tree race
  generalize migrate resolver options directory tree race = run at hcourse ⊢
  cases hcourse with
  | unselected => rfl
  | unscanned => rfl
  | nothingFound => rfl
  | dry => rfl
  | wet _ _ _ hwet => simp [hwet] at hdry

end ExprMigration
