import ExprMigration.Proofs.FileTree.Parents

/-!
# The search for the configuration

The search takes the configuration file of the first place on the way up that holds one, unless a
repository is marked at a place further down (`Config.findIn_eq_some_iff`).  Places that hold neither do
not count (`Config.findIn_append`).  As no two places on the way up have the same configuration file, the
file that is found tells which place it is (`Config.join_fileName_inj`).
-/

namespace ExprMigration
namespace Config

variable {tree : FileTree} {directory : Location} {start place : Text} {chain below above : List Text}

/-! ## The first place -/

/-- Whether the configuration file of a place exists. -/
def Holds (tree : FileTree) (directory : Location) (place : Text) : Prop :=
  tree.existsAt directory (Path.join place fileName) = true

/-- Whether a repository is marked at a place. -/
def Marked (tree : FileTree) (directory : Location) (place : Text) : Prop :=
  tree.existsAt directory (Path.join place repositoryMark) = true

/-- A place is the first of some that holds a configuration file, and no place in front of it marks a
repository. -/
def FirstIn (tree : FileTree) (directory : Location) (chain : List Text) (place : Text) : Prop :=
  Holds tree directory place ∧ ∃ below above, chain = below ++ place :: above ∧
    ∀ lower ∈ below, ¬ Holds tree directory lower ∧ ¬ Marked tree directory lower

theorem findIn_of_holds (h : Holds tree directory place) :
    findIn tree directory (place :: above) = some (Path.join place fileName) :=
  if_pos h

theorem findIn_of_marked (hholds : ¬ Holds tree directory place)
    (hmarked : Marked tree directory place) : findIn tree directory (place :: above) = none :=
  (if_neg hholds).trans (if_pos hmarked)

theorem findIn_of_bare (hholds : ¬ Holds tree directory place)
    (hmarked : ¬ Marked tree directory place) :
    findIn tree directory (place :: above) = findIn tree directory above :=
  (if_neg hholds).trans (if_neg hmarked)

theorem findIn_append
    (hbare : ∀ lower ∈ below, ¬ Holds tree directory lower ∧ ¬ Marked tree directory lower) :
    findIn tree directory (below ++ above) = findIn tree directory above := by
  induction below with
  | nil => rfl
  | cons lower below ih =>
    obtain ⟨⟨hholds, hmarked⟩, hbelow⟩ := List.forall_mem_cons.1 hbare
    rw [List.cons_append, findIn_of_bare hholds hmarked, ih hbelow]

theorem FirstIn.findIn (h : FirstIn tree directory chain place) :
    findIn tree directory chain = some (Path.join place fileName) := by
  obtain ⟨hholds, below, above, rfl, hbare⟩ := h
  rw [findIn_append hbare, findIn_of_holds hholds]

theorem FirstIn.mem (h : FirstIn tree directory chain place) : place ∈ chain := by
  obtain ⟨-, below, above, rfl, -⟩ := h
  simp

theorem FirstIn.cons {lower : Text} (hholds : ¬ Holds tree directory lower)
    (hmarked : ¬ Marked tree directory lower) (h : FirstIn tree directory chain place) :
    FirstIn tree directory (lower :: chain) place := by
  obtain ⟨hplace, below, above, rfl, hbare⟩ := h
  exact ⟨hplace, lower :: below, above, rfl, List.forall_mem_cons.2 ⟨⟨hholds, hmarked⟩, hbare⟩⟩

theorem findIn_eq_some_iff {path : Text} : findIn tree directory chain = some path ↔
    ∃ place, FirstIn tree directory chain place ∧ path = Path.join place fileName := by
  constructor
  · intro h
    induction chain with
    | nil => simp [findIn] at h
    | cons lower chain ih =>
      by_cases hholds : Holds tree directory lower
      · rw [findIn_of_holds hholds, Option.some_inj] at h
        exact ⟨lower, ⟨hholds, [], chain, rfl, by simp⟩, h.symm⟩
      · by_cases hmarked : Marked tree directory lower
        · simp [findIn_of_marked hholds hmarked] at h
        · rw [findIn_of_bare hholds hmarked] at h
          obtain ⟨place, hplace, hpath⟩ := ih h
          exact ⟨place, hplace.cons hholds hmarked, hpath⟩
  · rintro ⟨place, hplace, rfl⟩
    exact hplace.findIn

/-! ## The way up -/

theorem components_join_fileName (place : Text) : Path.components (Path.join place fileName) =
    Path.components place ++ [.name fileName] := by
  by_cases hplace : place = []
  · subst hplace
    decide
  · exact Path.components_join hplace (by decide)

/-- Two places of one way up do not have the same configuration file. -/
theorem join_fileName_inj (hchain : Path.Ascends start chain) {p q : Text} (hp : p ∈ chain)
    (hq : q ∈ chain) (h : Path.join p fileName = Path.join q fileName) : p = q := by
  refine hchain.eq_of_components hp hq ?_
  simpa [components_join_fileName] using congrArg Path.components h

theorem find_eq_findIn (hchain : Path.Ascends start chain) :
    find tree directory start = findIn tree directory chain := by
  rw [find, Path.ascends_iff.1 hchain]

theorem find_eq_some_iff (hchain : Path.Ascends start chain) (hplace : place ∈ chain) :
    find tree directory start = some (Path.join place fileName) ↔
      FirstIn tree directory chain place := by
  rw [find_eq_findIn hchain, findIn_eq_some_iff]
  constructor
  · rintro ⟨first, hfirst, hjoin⟩
    exact join_fileName_inj hchain hplace hfirst.mem hjoin ▸ hfirst
  · exact fun h => ⟨place, h, rfl⟩

theorem find_eq_none_iff (hchain : Path.Ascends start chain) :
    find tree directory start = none ↔ ∀ place ∈ chain, ¬ FirstIn tree directory chain place := by
  rw [find_eq_findIn hchain, Option.eq_none_iff_forall_ne_some]
  constructor
  · exact fun h place _ hfirst => h _ hfirst.findIn
  · intro h path hpath
    obtain ⟨place, hplace, -⟩ := findIn_eq_some_iff.1 hpath
    exact h place hplace.mem hplace

/-- The configuration file of the place that the search begins at comes first, whether or not the place
marks a repository. -/
theorem find_of_holds (h : Holds tree directory start) :
    find tree directory start = some (Path.join start fileName) := by
  rw [find, Path.upwards, Path.upwardsFrom]
  split
  · exact findIn_of_holds h
  · exact findIn_of_holds h

/-- What the search finds does not depend on how far below the first place of interest it begins. -/
theorem find_eq_find (hchain : Path.Ascends start (below ++ place :: above))
    (hbare : ∀ lower ∈ below, ¬ Holds tree directory lower ∧ ¬ Marked tree directory lower) :
    find tree directory start = find tree directory place := by
  rw [find_eq_findIn hchain, findIn_append hbare, find_eq_findIn hchain.of_append]

/-- There is one way up from each path, and the search along it ends: it finds the configuration file of
the first place that holds one with no repository marked further down, and nothing if there is no such
place.  So a place with a configuration file uses it although it marks a repository, and places
without either entry below another place find what that place finds. -/
theorem find_first_on_the_way_up (tree : FileTree) (directory : Location) (start : Text) :
    ∃ chain, (∀ chain', Path.Ascends start chain' ↔ chain' = chain) ∧
      (∀ place ∈ chain, find tree directory start = some (Path.join place fileName) ↔
        FirstIn tree directory chain place) ∧
      (find tree directory start = none ↔
        ∀ place ∈ chain, ¬ FirstIn tree directory chain place) ∧
      (∀ place ∈ chain, Holds tree directory place → Marked tree directory place →
        find tree directory place = some (Path.join place fileName)) ∧
      ∀ below place above, chain = below ++ place :: above →
        (∀ lower ∈ below, ¬ Holds tree directory lower ∧ ¬ Marked tree directory lower) →
          find tree directory start = find tree directory place := by
  have hchain : Path.Ascends start (Path.upwards start) := Path.ascends_iff.2 rfl
  refine ⟨Path.upwards start, fun _ => Path.ascends_iff, fun place => find_eq_some_iff hchain,
    find_eq_none_iff hchain, fun place _ hholds _ => find_of_holds hholds, ?_⟩
  intro below place above happend hbare
  exact find_eq_find (happend ▸ hchain) hbare

/-- A repository at `/a` with a configuration file, and the directory `/a/b` in it. -/
def repository : FileTree :=
  ((FileTree.empty.putWithParents ["a".toList, fileName] (.file (.text []))).putWithParents
    ["a".toList, repositoryMark] .directory).putWithParents ["a".toList, "b".toList] .directory

example : find repository [] "/a/b/./c/".toList = some "/a/.exprmigrc.json".toList := by
  decide +kernel

example : find (repository.put ["a".toList, "b".toList, repositoryMark] .directory) []
    "/a/b/./c/".toList = none := by decide +kernel

end Config
end ExprMigration
