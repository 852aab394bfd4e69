import ExprMigration.Migration
import ExprMigration.Proofs.FileTree.Shape

/-!
# The course of a run

What a run does with its next file (`Turn`), and the five ways a whole run goes (`Course`), of which
only the last one writes.  A run over files that can be read stops only at one that cannot be written
over (`exists_unwritable_of_error`), and leaves alone what none of its paths leads to
(`frame_applyFiles`).
-/

namespace ExprMigration

variable {resolver : Resolver} {options : MigrationOptions} {directory : Location}
  {tree : FileTree} {path : Text} {tokens : List Text} {files : PathMap (List Text)}

/-! ## The next file -/

/-- The ways a run over files goes on at the first of them. -/
inductive Turn (resolver : Resolver) (directory : Location) (path : Text) (tokens : List Text)
    (files : PathMap (List Text)) (tree : FileTree) : Run ChangeSummary → Prop where
  | unreadable {fault : Fault} (h : tree.read directory path = .error fault) :
      Turn resolver directory path tokens files tree ⟨.error (.unreadable path fault), tree⟩
  | unwritable {before : Text} {fault : Fault}
      (h : tree.write directory path (.text (resolver.substitute tokens before).1) = .error fault) :
      Turn resolver directory path tokens files tree ⟨.error (.unwritable path fault), tree⟩
  | written {before : Text} {place : Location} {written : FileTree}
      (hlocate : tree.locate .content directory path = .ok place)
      (hget : tree.get? place = some (.file (.text before)))
      (hwrite : tree.write directory path (.text (resolver.substitute tokens before).1) =
        .ok written)
      (hput : written = tree.put place (.file (.text (resolver.substitute tokens before).1))) :
      Turn resolver directory path tokens files tree
        ⟨(applyFiles resolver directory files written).result.map
            (·.withFile path before (resolver.substitute tokens before).1
              (resolver.substitute tokens before).2),
          (applyFiles resolver directory files written).tree⟩

theorem turn_applyFiles (resolver : Resolver) (directory : Location) (path : Text)
    (tokens : List Text) (files : PathMap (List Text)) (tree : FileTree) :
    Turn resolver directory path tokens files tree
      (applyFiles resolver directory ((path, tokens) :: files) tree) := by
  rcases hread : tree.read directory path with fault | before
  · simpa [applyFiles, hread] using Turn.unreadable hread
  rcases hwrite : tree.write directory path (.text (resolver.substitute tokens before).1)
    with fault | written
  · simpa [applyFiles, hread, hwrite] using Turn.unwritable hwrite
  · obtain ⟨place, hlocate, hget, hput⟩ := FileTree.write_of_read hread hwrite
    simpa [applyFiles, hread, hwrite] using Turn.written hlocate hget hwrite hput

/-- A run over files that can be read stops only at one that cannot be written over. -/
theorem exists_unwritable_of_error {error : CorpusError}
    (hread : ∀ f ∈ files, ∃ t, tree.read directory f.1 = .ok t)
    (h : (applyFiles resolver directory files tree).result = .error error) :
    ∃ f ∈ files, ∃ fault, error = .unwritable f.1 fault ∧ ¬ tree.Writable directory f.1 := by
  induction files generalizing tree with
  | nil => simp [applyFiles] at h
  | cons head rest ih =>
    obtain ⟨path, tokens⟩ := head
    obtain ⟨⟨t, ht⟩, hreadRest⟩ := List.forall_mem_cons.1 hread
    have hturn := turn_applyFiles resolver directory path tokens rest tree
    generalize applyFiles resolver directory ((path, tokens) :: rest) tree = run at h hturn
    cases hturn with
    | unreadable hfault => simp [ht] at hfault
    | @unwritable before fault hfault =>
      refine ⟨(path, tokens), List.mem_cons_self, fault, (Except.error.inj h).symm, ?_⟩
      rintro ⟨_, hw⟩
      obtain ⟨written, hwritten⟩ : ∃ written, tree.write directory path
          (.text (resolver.substitute tokens before).1) = .ok written :=
        FileTree.write_of_shape rfl hw
      simp [hwritten] at hfault
    | @written before place written hlocate hget hwrite hput =>
      -- the write keeps the shape: what can be read or written over stays so
      have hshape : written.shape = tree.shape := hput ▸ FileTree.shape_put _ hget
      have hreadWritten : ∀ f ∈ rest, ∃ t, written.read directory f.1 = .ok t := by
        intro f hf
        obtain ⟨t, ht⟩ := hreadRest f hf
        exact hput ▸ FileTree.exists_read_put _ hget ht
      rcases hrest : (applyFiles resolver directory rest written).result with error' | summary
      · obtain rfl : error' = error := by simpa [hrest, Except.map] using h
        obtain ⟨f, hf, fault, hfault, hunwritable⟩ := ih hreadWritten hrest
        refine ⟨f, List.mem_cons_of_mem _ hf, fault, hfault, fun hw => hunwritable ?_⟩
        obtain ⟨_, hw⟩ := hw
        exact FileTree.write_of_shape hshape.symm hw
      · simp [hrest, Except.map] at h

/-- A run succeeds if it can read and write every file. -/
theorem exists_applyFiles (hread : ∀ f ∈ files, ∃ t, tree.read directory f.1 = .ok t)
    (hwrite : ∀ f ∈ files, tree.Writable directory f.1) :
    ∃ summary, (applyFiles resolver directory files tree).result = .ok summary := by
  rcases hresult : (applyFiles resolver directory files tree).result with error | summary
  · obtain ⟨f, hf, _, _, hunwritable⟩ := exists_unwritable_of_error hread hresult
    exact absurd (hwrite f hf) hunwritable
  · exact ⟨summary, rfl⟩

/-- A run over files keeps the shape of the tree, and the entry of every location to which none of the
paths leads. -/
theorem frame_applyFiles (resolver : Resolver) (directory : Location)
    (files : PathMap (List Text)) (tree : FileTree) :
    (applyFiles resolver directory files tree).tree.shape = tree.shape ∧
    ∀ place, (∀ f ∈ files, tree.locate .content directory f.1 ≠ .ok place) →
      (applyFiles resolver directory files tree).tree.get? place = tree.get? place := by
  induction files generalizing tree with
  | nil => exact ⟨rfl, fun _ _ => rfl⟩
  | cons head rest ih =>
    obtain ⟨path, tokens⟩ := head
    have hturn := turn_applyFiles resolver directory path tokens rest tree
    generalize applyFiles resolver directory ((path, tokens) :: rest) tree = run at hturn ⊢
    cases hturn with
    | unreadable => exact ⟨rfl, fun _ _ => rfl⟩
    | unwritable => exact ⟨rfl, fun _ _ => rfl⟩
    | @written before there written hlocate hget _ hput =>
      obtain ⟨hshape, hframe⟩ := ih written
      have hwritten : written.shape = tree.shape := hput ▸ FileTree.shape_put _ hget
      refine ⟨hshape.trans hwritten, fun place hplace => ?_⟩
      obtain ⟨hhead, hrest⟩ := List.forall_mem_cons.1 hplace
      have hne : there ≠ place := by
        rintro rfl
        exact hhead hlocate
      calc (applyFiles resolver directory rest written).tree.get? place
          = written.get? place := by
            refine hframe place fun f hf => ?_
            rw [FileTree.locate_of_shape hwritten]
            exact hrest f hf
        _ = tree.get? place := by
            rw [hput, FileTree.get?_put tree place _ (FileTree.isPlace_of_get?_file hget), if_neg hne]

/-! ## Whole runs -/

/-- The ways a run over a tree goes, with what it returns. -/
inductive Course (resolver : Resolver) (options : MigrationOptions) (directory : Location)
    (tree : FileTree) (race : Nat) : Run MigrationOutcome → Prop where
  | unselected {error : CorpusError} (h : options.files tree directory = .error error) :
      Course resolver options directory tree race ⟨.error error, tree⟩
  | unscanned {paths : List Text} {error : CorpusError}
      (hpaths : options.files tree directory = .ok paths)
      (h : CorpusScan.ofPaths tree directory paths race = .error error) :
      Course resolver options directory tree race ⟨.error error, tree⟩
  | nothingFound {paths : List Text} {scan : CorpusScan}
      (hpaths : options.files tree directory = .ok paths)
      (hscan : CorpusScan.ofPaths tree directory paths race = .ok scan) (hempty : scan.files = []) :
      Course resolver options directory tree race ⟨.ok (.nothingFound paths.length), tree⟩
  | dry {paths : List Text} {scan : CorpusScan}
      (hpaths : options.files tree directory = .ok paths)
      (hscan : CorpusScan.ofPaths tree directory paths race = .ok scan) (hfound : scan.files ≠ [])
      (hdry : options.dryRun = true) :
      Course resolver options directory tree race
        ⟨.ok (.dryRun paths.length scan (scan.describe resolver)), tree⟩
  | wet {paths : List Text} {scan : CorpusScan}
      (hpaths : options.files tree directory = .ok paths)
      (hscan : CorpusScan.ofPaths tree directory paths race = .ok scan) (hfound : scan.files ≠ [])
      (hwet : options.dryRun = false) :
      Course resolver options directory tree race
        ⟨(scan.apply resolver directory tree).result.map
            (.applied paths.length scan (scan.describe resolver)),
          (scan.apply resolver directory tree).tree⟩

theorem course_migrate (resolver : Resolver) (options : MigrationOptions) (directory : Location)
    (tree : FileTree) (race : Nat) :
    Course resolver options directory tree race (migrate resolver options directory tree race) := by
  rcases hpaths : options.files tree directory with error | paths
  · simpa [migrate, hpaths] using Course.unselected hpaths
  rcases hscan : CorpusScan.ofPaths tree directory paths race with error | scan
  · simpa [migrate, hpaths, hscan] using Course.unscanned hpaths hscan
  by_cases hempty : scan.files = []
  · simpa [migrate, hpaths, hscan, CorpusScan.isEmpty, hempty] using
      Course.nothingFound hpaths hscan hempty
  cases hdry : options.dryRun with
  | true =>
    simpa [migrate, hpaths, hscan, CorpusScan.isEmpty, hempty, hdry] using
      Course.dry hpaths hscan hempty hdry
  | false =>
    simpa [migrate, hpaths, hscan, CorpusScan.isEmpty, hempty, hdry] using
      Course.wet hpaths hscan hempty hdry

/-! ## Small runs -/

/-- All YAML files below the working directory. -/
def yamlBelow : MigrationOptions :=
  { root := ['.'], extensions := ["yaml".toList], ignores := [], dryRun := false }

/-- A tree of one YAML file. -/
def oneFile (t : Text) : FileTree := FileTree.empty.put ["a.yaml".toList] (.file (.text t))

theorem exists_of_isOk {ε α : Type} {result : Except ε α} (h : result.toBool) :
    ∃ a, result = .ok a := by
  cases result with
  | error => simp [Except.toBool] at h
  | ok a => exact ⟨a, rfl⟩

end ExprMigration
