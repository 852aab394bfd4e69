import ExprMigration.Proofs.FileTree.Roots
import ExprMigration.Proofs.Migration.Selected
import Mathlib.Data.List.Sort

/-!
# Discovered files

A selection whose walk meets no fault has exactly the paths of the files that are reached from its root
and that it wants (`Selection.Discovers`), in the order of the paths.  What it wants is decided by the
names that lead to a file: the last one has the extension, and the pattern sees all of them, because the
root can always be parted off.  So it does not matter how the root is written.
-/

namespace ExprMigration

theorem Text.endsWith_iff {tail t : Text} : endsWith tail t ↔ tail <:+ t := by
  rw [endsWith, Option.isSome_iff_exists]
  simp only [beforeTail?_eq_some_iff]
  exact ⟨fun ⟨rest, h⟩ => ⟨rest, h.symm⟩, fun ⟨rest, h⟩ => ⟨rest, h.symm⟩⟩

namespace Selection

open FileTree (fullRoute)

variable {selection : Selection} {tree : FileTree} {directory : Location} {paths : List Text}
  {root path : Text} {names : List Text}

/-! ## Wanted files -/

/-- A selection wants the file to which names lead from its root: the file has one of the extensions, and
no pattern ignores it. -/
structure Wants (selection : Selection) (names : List Text) : Prop where
  extension : ∃ extension ∈ selection.extensions,
    '.' :: extension <:+ names.getLast?.getD (Path.fileName selection.root)
  ignored : ∀ pattern ∈ selection.ignores, ¬ Glob.accepts pattern (Text.join ['/'] names)

theorem below?_of_reaches (h : tree.Reaches directory selection.root names) :
    Path.below? selection.root (names.foldl Path.join selection.root) =
      some (Text.join ['/'] names) :=
  Path.below?_continued h.ne_nil h.isName

theorem relative_of_reaches (h : tree.Reaches directory selection.root names) :
    selection.relative (names.foldl Path.join selection.root) = Text.join ['/'] names := by
  rw [relative, below?_of_reaches h, Option.getD_some]

/-- What is picked by path is what is wanted by the names that lead to it. -/
theorem picks_iff_wants (h : tree.Reaches directory selection.root names) :
    selection.picks (names.foldl Path.join selection.root) ↔ selection.Wants names := by
  rw [picks, relative_of_reaches h, Path.fileName_continued h.ne_nil h.isName]
  simp only [Bool.and_eq_true, Bool.not_eq_true', List.any_eq_false, List.any_eq_true,
    Text.endsWith_iff]
  exact ⟨fun ⟨hignored, hextension⟩ => ⟨hextension, hignored⟩,
    fun hwants => ⟨hwants.ignored, hwants.extension⟩⟩

/-- The selected paths are those of the wanted files that are reached from the root. -/
theorem mem_files_iff_wants (h : selection.files tree directory = .ok paths) : path ∈ paths ↔
    ∃ names, tree.Reaches directory selection.root names ∧ selection.Wants names ∧
      path = names.foldl Path.join selection.root := by
  rw [mem_files_iff h]
  constructor
  · rintro ⟨⟨names, hreaches, rfl⟩, hpicks⟩
    exact ⟨names, hreaches, (picks_iff_wants hreaches).1 hpicks, rfl⟩
  · rintro ⟨names, hreaches, hwants, rfl⟩
    exact ⟨⟨names, hreaches, rfl⟩, (picks_iff_wants hreaches).2 hwants⟩

/-! ## Relative paths -/

theorem mem_map_relative (h : selection.files tree directory = .ok paths) :
    path ∈ paths.map selection.relative ↔ ∃ names, tree.Reaches directory selection.root names ∧
      selection.Wants names ∧ path = Text.join ['/'] names := by
  rw [List.mem_map]
  constructor
  · rintro ⟨path, hpath, rfl⟩
    obtain ⟨names, hreaches, hwants, rfl⟩ := (mem_files_iff_wants h).1 hpath
    exact ⟨names, hreaches, hwants, relative_of_reaches hreaches⟩
  · rintro ⟨names, hreaches, hwants, rfl⟩
    exact ⟨_, (mem_files_iff_wants h).2 ⟨names, hreaches, hwants, rfl⟩, relative_of_reaches hreaches⟩

/-- Behind the root, the selected paths stand in the same order. -/
theorem pairwise_map_relative (h : selection.files tree directory = .ok paths) :
    (paths.map selection.relative).Pairwise Path.Before := by
  rw [List.pairwise_map]
  refine (pairwise_files h).imp_of_mem ?_
  intro p q hp hq hbefore
  obtain ⟨names, hreaches, -, rfl⟩ := (mem_files_iff_wants h).1 hp
  obtain ⟨names', hreaches', -, rfl⟩ := (mem_files_iff_wants h).1 hq
  rw [Path.before_iff_of_components
    (FileTree.components_continued hreaches.ne_nil hreaches.isName)
    (FileTree.components_continued hreaches'.ne_nil hreaches'.isName)] at hbefore
  have hrelative {names : List Text} (h : tree.Reaches directory selection.root names) :
      Path.components (Text.join ['/'] names) = [] ++ names.map Component.name :=
    Path.components_join_names h.isName
  rwa [relative_of_reaches hreaches, relative_of_reaches hreaches',
    Path.before_iff_of_components (hrelative hreaches) (hrelative hreaches')]

/-- The names of a root that is no file do not matter, and a file has its name in every spelling. -/
theorem Wants.of_fileName (hname : names = [] → Path.fileName selection.root = Path.fileName root)
    (h : selection.Wants names) : { selection with root := root }.Wants names := by
  refine ⟨?_, h.ignored⟩
  rcases names with _ | ⟨n, names⟩
  · simpa [hname rfl] using h.extension
  · simpa [List.getLast?_cons] using h.extension

/-- Two spellings of a root select the same files behind the root. -/
theorem map_relative_eq (hgrounded : tree.Grounded)
    (hdirectory : tree.get? directory = some .directory)
    (hroute : fullRoute directory selection.root = fullRoute directory root)
    (h : selection.files tree directory = .ok paths) {paths' : List Text}
    (h' : { selection with root := root }.files tree directory = .ok paths') :
    paths.map selection.relative = paths'.map { selection with root := root }.relative := by
  refine (pairwise_map_relative h).eq_of_mem_iff (pairwise_map_relative h') fun path => ?_
  rw [mem_map_relative h, mem_map_relative h']
  obtain ⟨hclean, -⟩ := files_eq_ok h
  obtain ⟨hclean', -⟩ := files_eq_ok h'
  refine exists_congr fun names => ?_
  constructor
  · rintro ⟨hreaches, hwants, rfl⟩
    have hreaches' := hreaches.of_fullRoute hgrounded hdirectory hroute hclean'
    have hwants' : { selection with root := root }.Wants names := hwants.of_fileName <| by
      rintro rfl
      exact hreaches.fileName_eq hgrounded hdirectory hroute hreaches'
    exact ⟨hreaches', hwants', rfl⟩
  · rintro ⟨hreaches', hwants, rfl⟩
    have hreaches := hreaches'.of_fullRoute hgrounded hdirectory hroute.symm hclean
    have hwants' : selection.Wants names := hwants.of_fileName <| by
      rintro rfl
      exact hreaches'.fileName_eq hgrounded hdirectory hroute.symm hreaches
    exact ⟨hreaches, hwants', rfl⟩

/-! ## Whole selections -/

/-- Some paths are those of the files that a selection wants. -/
structure Discovers (selection : Selection) (tree : FileTree) (directory : Location)
    (paths : List Text) : Prop where
  mem : ∀ path, path ∈ paths ↔ ∃ names, tree.Reaches directory selection.root names ∧
    selection.Wants names ∧ path = names.foldl Path.join selection.root
  /-- The names of one directory stand in the order of their bytes (`Text.bytes_lt_bytes`). -/
  ordered : paths.Pairwise Path.Before
  /-- The root can be parted off the path of every file. -/
  relative : ∀ names, tree.Reaches directory selection.root names →
    Path.below? selection.root (names.foldl Path.join selection.root) = some (Text.join ['/'] names)
  /-- A root with the same route from the top selects the same files behind it. -/
  route : tree.Grounded → tree.get? directory = some .directory → ∀ root,
    fullRoute directory selection.root = fullRoute directory root →
    ∀ paths', { selection with root := root }.files tree directory = .ok paths' →
      paths.map selection.relative = paths'.map { selection with root := root }.relative
  /-- So the root can be written behind `./`, with a slash at its end and from the top. -/
  spelling : tree.Grounded → tree.get? directory = some .directory → selection.root ≠ [] →
    ¬ Path.isAbsolute selection.root → ∀ root ∈ FileTree.spellings directory selection.root,
    ∀ paths', { selection with root := root }.files tree directory = .ok paths' →
      paths.map selection.relative = paths'.map { selection with root := root }.relative

theorem discovers_of_ok (h : selection.files tree directory = .ok paths) :
    selection.Discovers tree directory paths where
  mem _ := mem_files_iff_wants h
  ordered := pairwise_files h
  relative _ := below?_of_reaches
  route hgrounded hdirectory _ hroute _ h' := map_relative_eq hgrounded hdirectory hroute h h'
  spelling hgrounded hdirectory hne hrelative root hroot _ h' := by
    have hnames : ∀ n ∈ directory, Location.isName n := fun n hn =>
      FileTree.isName_of_get? (List.ne_nil_of_mem hn) hdirectory n hn
    have hroute := FileTree.fullRoute_of_mem_spellings hnames hne hrelative hroot
    exact map_relative_eq hgrounded hdirectory hroute h h'

/-- A walk with a fault selects nothing: the selection fails with the path and the reason of such a
fault.  Any other walk selects the files that are wanted. -/
theorem files_discovers (selection : Selection) (tree : FileTree) (directory : Location) :
    ((∃ fault, .error fault ∈ tree.walk directory selection.root) →
      ∃ stop, .error stop ∈ tree.walk directory selection.root ∧
        selection.files tree directory = .error (.unwalkable stop.path stop.fault)) ∧
    ((∀ fault, .error fault ∉ tree.walk directory selection.root) →
      ∃ paths, selection.files tree directory = .ok paths ∧
        selection.Discovers tree directory paths) := by
  refine ⟨fun ⟨fault, hfault⟩ => selection.gather_of_fault hfault, fun hclean => ?_⟩
  have hfiles := selection.gather_of_clean hclean
  exact ⟨_, hfiles, discovers_of_ok hfiles⟩

/-- A directory `d` with names that begin alike, a hidden file, a link and an ignored directory. -/
def neighbours : FileTree :=
  [["a".toList, "x.yaml".toList], ["a-b".toList, "y.yaml".toList], ["a.yaml".toList],
      [".h.yaml".toList], ["v".toList, "z.yaml".toList], ["notes".toList]].foldl
    (fun tree names => tree.putWithParents ("w".toList :: "d".toList :: names) (.file (.text [])))
    (FileTree.empty.putWithParents ["w".toList, "d".toList, "l.yaml".toList] (.link "a.yaml".toList))

/-- The YAML files below a root, but for those below its directory `v`. -/
def yamlOutsideV (root : Text) : Selection :=
  { root, extensions := ["yaml".toList],
    ignores := [[.exactly 'v', .exactly '/', .anyDirectories]] }

/-- Every spelling of the directory selects the same files, and where there is nothing, the selection
fails. -/
theorem files_discovers_neighbours :
    (∀ root ∈ FileTree.spellings ["w".toList] "d".toList, ∃ paths,
      (yamlOutsideV root).files neighbours ["w".toList] = .ok paths ∧
      paths.map (yamlOutsideV root).relative =
        [".h.yaml".toList, "a/x.yaml".toList, "a-b/y.yaml".toList, "a.yaml".toList]) ∧
    ∃ stop : WalkFault, (yamlOutsideV "e".toList).files neighbours ["w".toList] =
      .error (.unwalkable stop.path stop.fault) := by
  have hclean : ∀ root ∈ FileTree.spellings ["w".toList] "d".toList,
      ∀ fault, .error fault ∉ neighbours.walk ["w".toList] root := by
    have hall : ∀ root ∈ FileTree.spellings ["w".toList] "d".toList,
        ∀ item ∈ neighbours.walk ["w".toList] root, item.toBool := by
      decide +kernel
    intro root hroot fault hfault
    simpa [Except.toBool] using hall root hroot _ hfault
  have hfault : .error ⟨"e".toList, .notFound⟩ ∈ neighbours.walk ["w".toList] "e".toList := by
    decide +kernel
  have hd : "d".toList ∈ FileTree.spellings ["w".toList] "d".toList := List.mem_cons_self
  obtain ⟨paths, hpaths, hdiscovers⟩ :=
    (files_discovers (yamlOutsideV "d".toList) neighbours ["w".toList]).2 (hclean _ hd)
  have hrelative : paths.map (yamlOutsideV "d".toList).relative =
      [".h.yaml".toList, "a/x.yaml".toList, "a-b/y.yaml".toList, "a.yaml".toList] := by
    have hfiles : (yamlOutsideV "d".toList).files neighbours ["w".toList] = .ok ["d/.h.yaml".toList,
        "d/a/x.yaml".toList, "d/a-b/y.yaml".toList, "d/a.yaml".toList] := by
      decide +kernel
    obtain rfl := Except.ok.inj (hfiles.symm.trans hpaths)
    decide +kernel
  refine ⟨fun root hroot => ?_, ?_⟩
  · obtain ⟨paths', hpaths', -⟩ :=
      (files_discovers (yamlOutsideV root) neighbours ["w".toList]).2 (hclean root hroot)
    refine ⟨paths', hpaths', ?_⟩
    rw [← hrelative]
    exact (hdiscovers.spelling (by decide +kernel) (by decide +kernel) (by decide) (by decide) root
      hroot paths' hpaths').symm
  · obtain ⟨stop, -, hstop⟩ :=
      (files_discovers (yamlOutsideV "e".toList) neighbours ["w".toList]).1 ⟨_, hfault⟩
    exact ⟨stop, hstop⟩

end Selection
end ExprMigration
