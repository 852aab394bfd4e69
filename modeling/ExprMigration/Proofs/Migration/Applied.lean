import ExprMigration.Proofs.Migration.Course
import ExprMigration.Proofs.Migration.Selected
import ExprMigration.Proofs.Substitution.OnePass

/-!
# Runs over files

What a run that succeeds leaves behind, file by file (`Substituted`): the new text of every file it
was given, every other file as it was, and a summary that says which is which.  One step of the run
is `applyFiles_cons`; `substituted_of_ok` takes it through the whole run, and `onlyRewritten_of_ok`
reads it off location by location.
-/

namespace ExprMigration

/-- What a run changed and left. -/
def MigrationOutcome.summary : MigrationOutcome → ChangeSummary
  | .applied _ _ _ summary => summary
  | .nothingFound _ | .dryRun _ _ _ => .empty

variable {resolver : Resolver} {directory : Location} {tree after : FileTree}
  {files : PathMap (List Text)} {summary : ChangeSummary}

/-! ## One file -/

theorem ChangeSummary.left_withFile (summary : ChangeSummary) (path before after : Text)
    (left : List Text) : (summary.withFile path before after left).left =
      [(path, left)].filter (fun e => e.2 ≠ []) ++ summary.left := by
  by_cases h : left = [] <;> simp [withFile, h]

theorem ChangeSummary.changed_withFile (summary : ChangeSummary) (path before after : Text)
    (left : List Text) : (summary.withFile path before after left).changed =
      (if after = before then [] else [path]) ++ summary.changed := by
  by_cases h : after = before <;> simp [withFile, h]

/-- No token is left exactly if no file has one left. -/
theorem ChangeSummary.leftCount_eq_zero (h : ∀ e ∈ summary.left, e.2 ≠ []) :
    summary.leftCount = 0 ↔ summary.left = [] := by
  rw [leftCount, List.length_eq_zero_iff, List.flatMap_eq_nil_iff]
  constructor
  · intro hall
    rw [List.eq_nil_iff_forall_not_mem]
    exact fun e he => h e he (hall e he)
  · intro hnil
    simp [hnil]

/-- The turn of one file in a run that succeeds. -/
theorem applyFiles_cons {path : Text} {tokens : List Text}
    (h : (applyFiles resolver directory ((path, tokens) :: files) tree).result = .ok summary) :
    ∃ before place written summary', tree.locate .content directory path = .ok place ∧
      tree.get? place = some (.file (.text before)) ∧
      written = tree.put place (.file (.text (resolver.substitute tokens before).1)) ∧
      tree.write directory path (.text (resolver.substitute tokens before).1) = .ok written ∧
      (applyFiles resolver directory files written).result = .ok summary' ∧
      (applyFiles resolver directory ((path, tokens) :: files) tree).tree =
        (applyFiles resolver directory files written).tree ∧
      summary = summary'.withFile path before (resolver.substitute tokens before).1
        (resolver.substitute tokens before).2 := by
  have hturn := turn_applyFiles resolver directory path tokens files tree
  generalize applyFiles resolver directory ((path, tokens) :: files) tree = run at h hturn ⊢
  cases hturn with
  | unreadable => simp at h
  | unwritable => simp at h
  | @written before place written hlocate hget hwrite hput =>
    rcases hrest : (applyFiles resolver directory files written).result with error | summary'
    · simp [hrest, Except.map] at h
    · refine ⟨before, place, written, summary', hlocate, hget, hput, hwrite, hrest, rfl, ?_⟩
      simpa [hrest, Except.map] using h.symm

/-- Writing over one of several files leaves the others to be read as before. -/
theorem FileTree.Apart.put {path : Text} {paths : List Text} {place : Location} {content : Content}
    (h : tree.Apart directory (path :: paths))
    (hlocate : tree.locate .content directory path = .ok place)
    (hget : tree.get? place = some (.file content)) (new : Content) :
    (tree.put place (.file new)).Apart directory paths ∧
      ∀ q ∈ paths, (tree.put place (.file new)).read directory q = tree.read directory q := by
  obtain ⟨hhead, hrest⟩ := List.pairwise_cons.1 h
  refine ⟨FileTree.Apart.of_shape hrest (FileTree.shape_put new hget), fun q hq => ?_⟩
  exact FileTree.read_put_of_ne hget (hhead q hq place hlocate)

/-! ## All files -/

/-- What a run that succeeds leaves behind. -/
structure Substituted (resolver : Resolver) (directory : Location) (files : PathMap (List Text))
    (tree after : FileTree) (summary : ChangeSummary) : Prop where
  shape : after.shape = tree.shape
  /-- Each file has been read and holds its new text. -/
  read : ∀ f ∈ files, ∃ before, tree.read directory f.1 = .ok before ∧
    after.read directory f.1 = .ok (resolver.substitute f.2 before).1
  writable : ∀ f ∈ files, tree.Writable directory f.1
  /-- Every path to another file reads what it read. -/
  frame : ∀ path, (∀ f ∈ files, ∀ place, tree.locate .content directory f.1 = .ok place →
    tree.locate .content directory path ≠ .ok place) →
    after.read directory path = tree.read directory path
  left : summary.left = (files.map fun f =>
    (f.1, f.2.filter fun u => !(resolver.resolveToken u).isResolved)).filter fun e => e.2 ≠ []
  changed : summary.changed = [] ↔ ∀ f ∈ files, ∀ before, tree.read directory f.1 = .ok before →
    (resolver.substitute f.2 before).1 = before
  /-- Where no text is new, the tree is not. -/
  idle : (∀ f ∈ files, ∀ before, tree.read directory f.1 = .ok before →
    (resolver.substitute f.2 before).1 = before) → after = tree

theorem substituted_nil : Substituted resolver directory [] tree tree .empty where
  shape := rfl
  read := by simp
  writable := by simp
  frame _ _ := rfl
  left := rfl
  changed := by simp [ChangeSummary.empty]
  idle _ := rfl

/-- One more file in front of a run.  What the run reads it would have read before, since its paths
lead elsewhere. -/
theorem Substituted.cons {path : Text} {tokens : List Text} {before : Text} {place : Location}
    {written : FileTree} (hapart : tree.Apart directory (path :: files.map Prod.fst))
    (hlocate : tree.locate .content directory path = .ok place)
    (hget : tree.get? place = some (.file (.text before)))
    (hwritten : written = tree.put place (.file (.text (resolver.substitute tokens before).1)))
    (hwrite : tree.write directory path (.text (resolver.substitute tokens before).1) = .ok written)
    (h : Substituted resolver directory files written after summary) :
    Substituted resolver directory ((path, tokens) :: files) tree after
      (summary.withFile path before (resolver.substitute tokens before).1
        (resolver.substitute tokens before).2) := by
  have hshape : written.shape = tree.shape := hwritten ▸ FileTree.shape_put _ hget
  have hread : tree.read directory path = .ok before :=
    FileTree.read_eq_ok_iff.2 ⟨place, hlocate, hget⟩
  have helsewhere : ∀ q, tree.locate .content directory q ≠ .ok place →
      written.read directory q = tree.read directory q := by
    intro q hq
    rw [hwritten]
    exact FileTree.read_put_of_ne hget hq
  obtain ⟨hhead, hrest⟩ := List.pairwise_cons.1 hapart
  have hfiles : ∀ f ∈ files, written.read directory f.1 = tree.read directory f.1 := fun f hf =>
    helsewhere f.1 (hhead f.1 (List.mem_map_of_mem hf) place hlocate)
  have hnew : written.read directory path = .ok (resolver.substitute tokens before).1 := by
    rw [hwritten]
    exact FileTree.read_put_self _ hget hlocate
  have hframe := h.frame path fun f hf there hthere hpath => by
    rw [FileTree.locate_of_shape hshape] at hthere hpath
    exact hhead f.1 (List.mem_map_of_mem hf) there hpath hthere
  refine { shape := h.shape.trans hshape, read := ?read, writable := ?writable, frame := ?frame,
           left := ?left, changed := ?changed, idle := ?idle }
  case read =>
    refine List.forall_mem_cons.2 ⟨⟨before, hread, hframe.trans hnew⟩, fun f hf => ?_⟩
    obtain ⟨t, ht, hafter⟩ := h.read f hf
    exact ⟨t, hfiles f hf ▸ ht, hafter⟩
  case writable =>
    refine List.forall_mem_cons.2 ⟨FileTree.write_of_shape rfl hwrite, fun f hf => ?_⟩
    obtain ⟨_, hw⟩ := h.writable f hf
    exact FileTree.write_of_shape hshape hw
  case frame =>
    intro q hq
    obtain ⟨hqhead, hqrest⟩ := List.forall_mem_cons.1 hq
    rw [h.frame q fun f hf => by simpa only [FileTree.locate_of_shape hshape] using hqrest f hf]
    exact helsewhere q (hqhead place hlocate)
  case left =>
    rw [ChangeSummary.left_withFile, h.left, Resolver.substitute_snd, ← List.filter_append]
    rfl
  case changed =>
    rw [ChangeSummary.changed_withFile, List.append_eq_nil_iff, h.changed, List.forall_mem_cons]
    -- the files behind the first one are read as the tree was
    refine and_congr ?_ (forall₂_congr fun f hf => by rw [hfiles f hf])
    simp [hread]
  case idle =>
    intro hidle
    obtain ⟨hsame, hrestIdle⟩ := List.forall_mem_cons.1 hidle
    -- what was written is what was there, so the run behind goes over the same tree
    have heq : written = tree := by
      rw [hwritten, hsame before hread]
      exact FileTree.put_self (FileTree.ne_nil_of_get?_file hget) hget
    rw [← heq]
    exact h.idle fun f hf t ht => hrestIdle f hf t (hfiles f hf ▸ ht)

/-- A run that succeeds, over paths to different files. -/
theorem substituted_of_ok (hapart : tree.Apart directory (files.map Prod.fst))
    (h : (applyFiles resolver directory files tree).result = .ok summary) :
    Substituted resolver directory files tree (applyFiles resolver directory files tree).tree
      summary := by
  induction files generalizing tree summary with
  | nil =>
    obtain rfl : ChangeSummary.empty = summary := by simpa [applyFiles] using h
    exact substituted_nil
  | cons head rest ih =>
    obtain ⟨path, tokens⟩ := head
    obtain ⟨before, place, written, summary', hlocate, hget, hwritten, hwrite, hrest, htree, rfl⟩ :=
      applyFiles_cons h
    have hapartRest : written.Apart directory (rest.map Prod.fst) :=
      hwritten ▸ (FileTree.Apart.put hapart hlocate hget _).1
    rw [htree]
    exact Substituted.cons hapart hlocate hget hwritten hwrite (ih hapartRest hrest)

/-- Some files hold their texts with the given tokens replaced, and nothing else is touched. -/
structure OnlyRewritten (resolver : Resolver) (directory : Location) (files : PathMap (List Text))
    (tree after : FileTree) : Prop where
  rewritten : ∀ f ∈ files, ∃ place before, tree.locate .content directory f.1 = .ok place ∧
    tree.get? place = some (.file (.text before)) ∧
    after.get? place = some (.file (.text (resolver.substitute f.2 before).1))
  /-- Every other location has the entry that it had. -/
  frame : ∀ place, (∀ f ∈ files, tree.locate .content directory f.1 ≠ .ok place) →
    after.get? place = tree.get? place
  /-- No entry is made or removed, or becomes one of another kind. -/
  shape : after.shape = tree.shape

theorem onlyRewritten_of_ok (hapart : tree.Apart directory (files.map Prod.fst))
    (h : (applyFiles resolver directory files tree).result = .ok summary) :
    OnlyRewritten resolver directory files tree (applyFiles resolver directory files tree).tree := by
  obtain ⟨hshape, hframe⟩ := frame_applyFiles resolver directory files tree
  refine ⟨fun f hf => ?_, hframe, hshape⟩
  obtain ⟨before, hread, hafter⟩ := (substituted_of_ok hapart h).read f hf
  obtain ⟨place, hlocate, hget⟩ := FileTree.read_eq_ok_iff.1 hread
  obtain ⟨place', hlocate', hget'⟩ := FileTree.read_eq_ok_iff.1 hafter
  -- the shape is kept, so the path leads to the place where it led
  rw [FileTree.locate_of_shape hshape, hlocate] at hlocate'
  cases hlocate'
  exact ⟨place, before, hlocate, hget, hget'⟩

/-- No token is left exactly if every given token has an expression. -/
theorem Substituted.leftCount_eq_zero_iff
    (h : Substituted resolver directory files tree after summary) :
    summary.leftCount = 0 ↔ ∀ f ∈ files, ∀ u ∈ f.2, (resolver.current? u).isSome := by
  have hnonempty : ∀ e ∈ summary.left, e.2 ≠ [] := by
    intro e he
    rw [h.left] at he
    simpa using (List.mem_filter.1 he).2
  rw [ChangeSummary.leftCount_eq_zero hnonempty, h.left, List.filter_eq_nil_iff, List.forall_mem_map]
  refine forall₂_congr fun f _ => ?_
  simp [List.filter_eq_nil_iff, Resolver.isResolved_eq, Option.isSome_iff_ne_none]

/-! ## Whole runs -/

section Migrate

variable {options : MigrationOptions} {paths : List Text} {race : Nat} {outcome : MigrationOutcome}

/-- A run that is not dry and succeeds goes over the files of its scan, of which there may be
none. -/
theorem migrate_ok (hwet : options.dryRun = false)
    (h : (migrate resolver options directory tree race).result = .ok outcome) :
    ∃ paths scan, options.files tree directory = .ok paths ∧
      CorpusScan.ofPaths tree directory paths race = .ok scan ∧
      (applyFiles resolver directory scan.files tree).result = .ok outcome.summary ∧
      (migrate resolver options directory tree race).tree =
        (applyFiles resolver directory scan.files tree).tree ∧
      ∀ selected scan rows, outcome ≠ .dryRun selected scan rows := by
  have hcourse := course_migrate resolver options directory tree race
  generalize migrate resolver options directory tree race = run at h hcourse ⊢
  cases hcourse with
  | unselected => simp at h
  | unscanned => simp at h
  | @nothingFound paths scan hpaths hscan hempty =>
    obtain rfl : .nothingFound paths.length = outcome := by simpa using h
    refine ⟨paths, scan, hpaths, hscan, ?_, ?_, by simp⟩ <;>
      simp [hempty, applyFiles, MigrationOutcome.summary]
  | dry _ _ _ hdry => simp [hwet] at hdry
  | @wet paths scan hpaths hscan =>
    rcases hrun : (scan.apply resolver directory tree).result with error | summary
    · simp [hrun, Except.map] at h
    · obtain rfl : .applied paths.length scan (scan.describe resolver) summary = outcome := by
        simpa [hrun, Except.map] using h
      exact ⟨paths, scan, hpaths, hscan, hrun, rfl, by simp⟩

theorem CorpusScan.exists_read {paths : List Text} (scan : CorpusScan)
    (hpaths : options.files tree directory = .ok paths)
    (hscan : CorpusScan.ofPaths tree directory paths race = .ok scan) :
    ∀ f ∈ scan.files, ∃ t, tree.read directory f.1 = .ok t := by
  intro f hf
  obtain ⟨_, _, t, ht, _⟩ := (mem_files_of_ofPaths (Selection.pairwise_not_same hpaths) hscan).1 hf
  exact ⟨t, ht⟩

/-- A run that is not dry succeeds if it can walk, read every selected file, and write those that
hold a token. -/
theorem exists_migrate (hwet : options.dryRun = false)
    (hpaths : options.files tree directory = .ok paths)
    (hread : ∀ path ∈ paths, ∃ t, tree.read directory path = .ok t)
    (hwrite : ∀ path ∈ paths, ∀ t, tree.read directory path = .ok t → Token.tokens t ≠ [] →
      tree.Writable directory path) :
    ∃ outcome, (migrate resolver options directory tree race).result = .ok outcome := by
  obtain ⟨scan, hscan⟩ := CorpusScan.exists_ofPaths hread race
  have hmem {f : Text × List Text} (hf : f ∈ scan.files) :=
    (CorpusScan.mem_files_of_ofPaths (Selection.pairwise_not_same hpaths) hscan).1 hf
  obtain ⟨summary, hsummary⟩ : ∃ summary,
      (applyFiles resolver directory scan.files tree).result = .ok summary := by
    refine exists_applyFiles (fun f hf => hread f.1 (hmem hf).1) fun f hf => ?_
    obtain ⟨hpath, hne, t, ht, htokens⟩ := hmem hf
    exact hwrite f.1 hpath t ht (htokens ▸ hne)
  by_cases hempty : scan.isEmpty
  · exact ⟨.nothingFound paths.length, by simp [migrate, hpaths, hscan, hempty]⟩
  · refine ⟨.applied paths.length scan (scan.describe resolver) summary, ?_⟩
    simp [migrate, hpaths, hscan, hempty, hwet, CorpusScan.apply, hsummary, Except.map]

/-- What a run over selected paths leaves behind. -/
structure Migrated (resolver : Resolver) (directory : Location) (paths : List Text)
    (tree after : FileTree) (summary : ChangeSummary) : Prop where
  shape : after.shape = tree.shape
  /-- Each file has been read and holds its new text. -/
  read : ∀ path ∈ paths, ∃ before, tree.read directory path = .ok before ∧
    after.read directory path = .ok (resolver.modernise before).1
  /-- Each file that held a token can be written over. -/
  writable : ∀ path ∈ paths, ∀ before, tree.read directory path = .ok before →
    Token.tokens before ≠ [] → tree.Writable directory path
  leftCount : summary.leftCount = 0 ↔ ∀ path ∈ paths, ∀ before,
    tree.read directory path = .ok before →
    ∀ u ∈ Token.tokens before, (resolver.current? u).isSome
  changed : summary.changed = [] ↔ ∀ path ∈ paths, ∀ before,
    tree.read directory path = .ok before → (resolver.modernise before).1 = before
  /-- Where no text is new, the tree is not. -/
  idle : (∀ path ∈ paths, ∀ before, tree.read directory path = .ok before →
    (resolver.modernise before).1 = before) → after = tree

theorem modernise_of_tokens_nil {t : Text} (h : Token.tokens t = []) :
    (resolver.modernise t).1 = t := by
  rw [Resolver.modernise, h]
  rfl

/-- A run over the files of a scan is a run over the selected paths: the files that the scan leaves
out hold no token, so that nothing would happen to them. -/
theorem Substituted.migrated {scan : CorpusScan} (hpaths : options.files tree directory = .ok paths)
    (hscan : CorpusScan.ofPaths tree directory paths race = .ok scan)
    (h : Substituted resolver directory scan.files tree after summary) :
    Migrated resolver directory paths tree after summary := by
  have hmem {path : Text} {tokens : List Text} : (path, tokens) ∈ scan.files ↔ _ :=
    CorpusScan.mem_files_of_ofPaths (Selection.pairwise_not_same hpaths) hscan
  have hfiles := CorpusScan.forall_files_iff (Selection.pairwise_not_same hpaths) hscan
  have hmodernise : (∀ f ∈ scan.files, ∀ before, tree.read directory f.1 = .ok before →
      (resolver.substitute f.2 before).1 = before) ↔
      ∀ path ∈ paths, ∀ before, tree.read directory path = .ok before →
        (resolver.modernise before).1 = before := by
    rw [hfiles fun _ tokens before => (resolver.substitute tokens before).1 = before]
    refine forall₂_congr fun path _ => forall₂_congr fun before _ => ?_
    by_cases hnil : Token.tokens before = []
    · simp [hnil, modernise_of_tokens_nil hnil]
    · simp [hnil, Resolver.modernise]
  refine { shape := h.shape, read := ?read, writable := ?writable, leftCount := ?leftCount,
           changed := h.changed.trans hmodernise,
           idle := fun hidle => h.idle (hmodernise.2 hidle) }
  case read =>
    intro path hpath
    obtain ⟨before, hread⟩ := CorpusScan.exists_read_of_ofPaths hscan path hpath
    refine ⟨before, hread, ?_⟩
    by_cases hnil : Token.tokens before = []
    · -- the scan leaves the file out, and its files are others
      rw [modernise_of_tokens_nil hnil, ← hread]
      refine h.frame path fun f hf place hplace => ?_
      obtain ⟨hfpath, hne, t, ht, htokens⟩ := hmem.1 hf
      refine (Selection.apart_files hpaths).locate_ne hfpath hpath ?_ hplace
      rintro rfl
      obtain rfl : before = t := by simpa using hread.symm.trans ht
      exact hne (htokens.trans hnil)
    · obtain ⟨t, ht, hafter⟩ := h.read _ (hmem.2 ⟨hpath, hnil, before, hread, rfl⟩)
      obtain rfl : before = t := by simpa using hread.symm.trans ht
      exact hafter
  case writable =>
    intro path hpath before hread hne
    exact h.writable _ (hmem.2 ⟨hpath, hne, before, hread, rfl⟩)
  case leftCount =>
    -- every file of the scan has been read, so that its text can be spoken of
    have hread : (∀ f ∈ scan.files, ∀ u ∈ f.2, (resolver.current? u).isSome) ↔
        ∀ f ∈ scan.files, ∀ before, tree.read directory f.1 = .ok before →
          ∀ u ∈ f.2, (resolver.current? u).isSome := by
      refine forall₂_congr fun f hf => ?_
      obtain ⟨_, _, t, ht, _⟩ := hmem.1 hf
      simp [ht]
    rw [h.leftCount_eq_zero_iff, hread,
      hfiles fun _ tokens _ => ∀ u ∈ tokens, (resolver.current? u).isSome]
    refine forall₂_congr fun path _ => forall₂_congr fun before _ => ?_
    by_cases hnil : Token.tokens before = []
    · simp [hnil]
    · simp [hnil]

/-- The files of a scan are different files. -/
theorem apart_of_ofPaths {scan : CorpusScan} (hpaths : options.files tree directory = .ok paths)
    (hscan : CorpusScan.ofPaths tree directory paths race = .ok scan) :
    tree.Apart directory (scan.files.map Prod.fst) := by
  rw [FileTree.Apart, List.pairwise_map]
  refine (CorpusScan.ordered_files hscan).imp_of_mem ?_
  intro f g hf hg hbefore place hplace
  have hne : f.1 ≠ g.1 := fun heq => Path.before_irrefl g.1 (heq ▸ hbefore)
  exact (Selection.apart_files hpaths).locate_ne (CorpusScan.mem_files hscan hf).1
    (CorpusScan.mem_files hscan hg).1 hne hplace

/-- A run that is not dry and succeeds has migrated the selected files. -/
theorem migrated_of_ok (hwet : options.dryRun = false)
    (h : (migrate resolver options directory tree race).result = .ok outcome) :
    ∃ paths, options.files tree directory = .ok paths ∧
      Migrated resolver directory paths tree (migrate resolver options directory tree race).tree
        outcome.summary := by
  obtain ⟨paths, scan, hpaths, hscan, hrun, htree, _⟩ := migrate_ok hwet h
  refine ⟨paths, hpaths, ?_⟩
  rw [htree]
  exact (substituted_of_ok (apart_of_ofPaths hpaths hscan) hrun).migrated hpaths hscan

end Migrate

end ExprMigration
