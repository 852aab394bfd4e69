import ExprMigration.Proofs.FileTree.Walk
import ExprMigration.Proofs.Migration.Scanned
import Mathlib.Data.List.Pairwise

/-!
# Selected files

The paths of a selection lead to different files (`Selection.apart_files`) and are different as paths,
so that a scan loses none of them: it holds exactly the selected files with a token
(`mem_files_of_ofPaths`).
-/

namespace ExprMigration

/-! ## Paths to different files -/

namespace FileTree

/-- No two of some paths lead to one file. -/
def Apart (tree : FileTree) (directory : Location) (paths : List Text) : Prop :=
  paths.Pairwise fun p q => ∀ place, tree.locate .content directory p = .ok place →
    tree.locate .content directory q ≠ .ok place

variable {tree other : FileTree} {directory : Location} {paths : List Text}

theorem Apart.of_shape (h : tree.Apart directory paths) (hshape : other.shape = tree.shape) :
    other.Apart directory paths := by
  simpa only [Apart, locate_of_shape hshape] using h

/-- Two different ones of such paths lead to different files. -/
theorem Apart.locate_ne {p q : Text} {place : Location} (h : tree.Apart directory paths)
    (hp : p ∈ paths) (hq : q ∈ paths) (hne : p ≠ q)
    (hplace : tree.locate .content directory p = .ok place) :
    tree.locate .content directory q ≠ .ok place := by
  have : Std.Symm fun p q => ∀ place, tree.locate .content directory p = .ok place →
      tree.locate .content directory q ≠ .ok place :=
    ⟨fun _ _ hpq place hq hp => hpq place hp hq⟩
  exact h.forall hp hq hne place hplace

end FileTree

/-! ## Selections -/

namespace Selection

variable {selection : Selection} {tree : FileTree} {directory : Location} {paths : List Text}

/-- The path of a picked file. -/
def picked? (selection : Selection) : Except WalkFault Visit → Option Text
  | .ok visit =>
    if visit.type = .file ∧ selection.picks visit.path then some visit.path else none
  | .error _ => none

theorem picked?_eq_some_iff {item : Except WalkFault Visit} {path : Text} :
    selection.picked? item = some path ↔ item = .ok ⟨path, .file⟩ ∧ selection.picks path := by
  rcases item with stop | ⟨path', type⟩
  · simp [picked?]
  · simp only [picked?, Option.ite_none_right_eq_some, Option.some.injEq, Except.ok.injEq,
      Visit.mk.injEq]
    constructor
    · rintro ⟨⟨rfl, hpicks⟩, rfl⟩
      exact ⟨⟨rfl, rfl⟩, hpicks⟩
    · rintro ⟨⟨rfl, rfl⟩, hpicks⟩
      exact ⟨⟨rfl, hpicks⟩, rfl⟩

/-- Without a fault, all picked files are gathered. -/
theorem gather_of_clean (selection : Selection) {items : List (Except WalkFault Visit)}
    (hclean : ∀ fault, .error fault ∉ items) :
    selection.gather items = .ok (items.filterMap selection.picked?) := by
  induction items with
  | nil => rfl
  | cons item rest ih =>
    rcases item with stop | visit
    · exact absurd List.mem_cons_self (hclean stop)
    · have hrest := ih fun fault hfault => hclean fault (List.mem_cons_of_mem _ hfault)
      by_cases hpick : visit.type = .file ∧ selection.picks visit.path <;>
        simp [gather, picked?, hpick, hrest, Except.map]

/-- The first fault stops everything. -/
theorem gather_of_fault (selection : Selection) {items : List (Except WalkFault Visit)}
    {fault : WalkFault} (h : .error fault ∈ items) : ∃ stop, .error stop ∈ items ∧
      selection.gather items = .error (.unwalkable stop.path stop.fault) := by
  induction items with
  | nil => simp at h
  | cons item rest ih =>
    rcases item with stop | visit
    · exact ⟨stop, List.mem_cons_self, rfl⟩
    · obtain ⟨stop, hmem, hstop⟩ := ih (by simpa using h)
      refine ⟨stop, List.mem_cons_of_mem _ hmem, ?_⟩
      by_cases hpick : visit.type = .file ∧ selection.picks visit.path <;>
        simp [gather, hpick, hstop, Except.map]

theorem files_eq_ok (h : selection.files tree directory = .ok paths) :
    (∀ fault, .error fault ∉ tree.walk directory selection.root) ∧
      paths = (tree.walk directory selection.root).filterMap selection.picked? := by
  have hclean : ∀ fault, .error fault ∉ tree.walk directory selection.root := by
    intro fault hfault
    obtain ⟨stop, -, hstop⟩ := selection.gather_of_fault hfault
    simp [files, hstop] at h
  refine ⟨hclean, ?_⟩
  rw [files, selection.gather_of_clean hclean] at h
  exact (Except.ok.inj h).symm

/-- A selection depends on the shape of the tree only. -/
theorem files_of_shape {other : FileTree} (h : other.shape = tree.shape) :
    selection.files other directory = selection.files tree directory := by
  simp only [files, FileTree.walk_of_shape h]

/-- The selected paths are those of the picked files that are reached from the root. -/
theorem mem_files_iff (h : selection.files tree directory = .ok paths) {path : Text} :
    path ∈ paths ↔ (∃ names, tree.Reaches directory selection.root names ∧
      path = names.foldl Path.join selection.root) ∧ selection.picks path := by
  obtain ⟨hclean, rfl⟩ := files_eq_ok h
  rw [← FileTree.file_mem_walk_iff hclean, List.mem_filterMap]
  simp only [picked?_eq_some_iff]
  constructor
  · rintro ⟨_, hmem, rfl, hpicks⟩
    exact ⟨hmem, hpicks⟩
  · rintro ⟨hmem, hpicks⟩
    exact ⟨_, hmem, rfl, hpicks⟩

/-- The selected paths stand in their order, each of them once. -/
theorem pairwise_files (h : selection.files tree directory = .ok paths) :
    paths.Pairwise Path.Before := by
  obtain ⟨-, rfl⟩ := files_eq_ok h
  rw [List.pairwise_filterMap]
  refine (tree.pairwise_walk directory selection.root).imp ?_
  intro a b hbefore p hp q hq
  exact hbefore _ _ (picked?_eq_some_iff.1 hp).1 (picked?_eq_some_iff.1 hq).1

/-- The selected paths lead to different files. -/
theorem apart_files (h : selection.files tree directory = .ok paths) :
    tree.Apart directory paths := by
  refine (pairwise_files h).imp_of_mem ?_
  intro p q hp hq hbefore place hplace hplace'
  obtain ⟨⟨names, hreaches, rfl⟩, -⟩ := (mem_files_iff h).1 hp
  obtain ⟨⟨names', hreaches', rfl⟩, -⟩ := (mem_files_iff h).1 hq
  obtain rfl := hreaches.injective hreaches' hplace hplace'
  exact Path.before_irrefl _ hbefore

/-- The selected paths are different paths. -/
theorem pairwise_not_same (h : selection.files tree directory = .ok paths) :
    paths.Pairwise fun p q => Path.same p q = false :=
  (pairwise_files h).imp fun hbefore => by simpa using hbefore.2

end Selection

/-! ## Scans of different paths -/

namespace CorpusScan

variable {tree : FileTree} {directory : Location} {paths : List Text} {race : Nat} {scan : CorpusScan}
  (hsame : paths.Pairwise fun p q => Path.same p q = false)

include hsame

/-- A scan holds the tokens of exactly the files in which there are some. -/
theorem mem_files_of_ofPaths (h : ofPaths tree directory paths race = .ok scan) {path : Text}
    {tokens : List Text} : (path, tokens) ∈ scan.files ↔ path ∈ paths ∧ tokens ≠ [] ∧
      ∃ t, tree.read directory path = .ok t ∧ tokens = Token.tokens t := by
  refine ⟨mem_files h, ?_⟩
  rintro ⟨hpath, hne, hread⟩
  have hget : scan.files.get? path = some tokens :=
    (get?_files h).2 ⟨hne, path, hpath, Path.same_refl path, hread⟩
  obtain ⟨⟨p, ts⟩, hf, hp, rfl⟩ := PathMap.exists_mem_of_get? hget
  -- the entry has the listed spelling, since no other one is listed
  have : Std.Symm fun p q => Path.same p q = false := ⟨fun p q hpq => by
    rw [← Bool.not_eq_true] at hpq ⊢
    exact fun hqp => hpq (Path.same_symm hqp)⟩
  obtain rfl : p = path := by
    by_contra hne
    have hdifferent := hsame.forall (mem_files h hf).1 hpath hne
    simp [hp] at hdifferent
  exact hf

/-- What holds of every file of a scan holds of every scanned file with a token. -/
theorem forall_files_iff (h : ofPaths tree directory paths race = .ok scan)
    (p : Text → List Text → Text → Prop) :
    (∀ f ∈ scan.files, ∀ t, tree.read directory f.1 = .ok t → p f.1 f.2 t) ↔
      ∀ path ∈ paths, ∀ t, tree.read directory path = .ok t → Token.tokens t ≠ [] →
        p path (Token.tokens t) t := by
  constructor
  · intro hall path hpath t ht hne
    have hmem : (path, Token.tokens t) ∈ scan.files :=
      (mem_files_of_ofPaths hsame h).2 ⟨hpath, hne, t, ht, rfl⟩
    exact hall _ hmem t ht
  · rintro hall ⟨path, tokens⟩ hf t ht
    obtain ⟨hpath, hne, t', ht', rfl⟩ := (mem_files_of_ofPaths hsame h).1 hf
    obtain rfl : t = t' := Except.ok.inj (ht.symm.trans ht')
    exact hall path hpath t ht hne

end CorpusScan

end ExprMigration
