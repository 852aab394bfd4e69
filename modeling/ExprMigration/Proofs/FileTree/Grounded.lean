import ExprMigration.Proofs.FileTree.Continuation

/-!
# Grounded trees

In a tree in which every entry stands in a directory, a way from a directory comes along directories
only, and one that does not end with a name leads to a directory (`Grounded.travel_last`).  A path that
can be read can then be written over (`Grounded.overwritesReadable`): the one path that leads to a file
for reading and is refused for writing would have a slash behind the name of a file.
-/

namespace ExprMigration
namespace FileTree

/-- Every entry stands in a directory. -/
def Grounded (tree : FileTree) : Prop :=
  ∀ e ∈ tree.entries, tree.get? e.1.dropLast = some .directory

instance (tree : FileTree) : Decidable tree.Grounded :=
  inferInstanceAs (Decidable (∀ e ∈ tree.entries, tree.get? e.1.dropLast = some .directory))

/-- Every path that can be read, seen from a directory, can be written over. -/
def OverwritesReadable (tree : FileTree) (directory : Location) : Prop :=
  ∀ path t, tree.read directory path = .ok t → tree.Writable directory path

variable {tree : FileTree} {here place : Location} {way before rest : List Step} {last : Step}
  {target : Text}

/-! ## Ways along directories -/

theorem get?_nil (tree : FileTree) : tree.get? [] = some .directory := rfl

/-- What is above a directory is one. -/
theorem Grounded.get?_dropLast (h : tree.Grounded) (hhere : tree.get? here = some .directory) :
    tree.get? here.dropLast = some .directory := by
  by_cases hne : here = []
  · subst hne
    exact hhere
  · exact h _ (mem_entries_of_get? hne hhere)

/-- What is above an entry is a directory. -/
theorem Grounded.get?_of_append (h : tree.Grounded) {entry : Entry} {names : List Text}
    (hne : names ≠ []) (hget : tree.get? (here ++ names) = some entry) :
    tree.get? here = some .directory := by
  induction names generalizing here entry with
  | nil => exact absurd rfl hne
  | cons name rest ih =>
    have habove {entry : Entry} (hget : tree.get? (here ++ [name]) = some entry) :
        tree.get? here = some .directory := by
      simpa using h _ (mem_entries_of_get? (by simp) hget)
    rcases rest with _ | ⟨next, rest⟩
    · exact habove hget
    · rw [List.append_cons] at hget
      exact habove (ih (by simp) hget)

/-- In a grounded tree, every way to an entry is one through real directories. -/
theorem Grounded.leads (h : tree.Grounded) {entry : Entry} {names : List Text} (hne : names ≠ [])
    (hget : tree.get? (here ++ names) = some entry) : tree.Leads entry here names := by
  induction names generalizing here with
  | nil => exact absurd rfl hne
  | cons name rest ih =>
    rcases rest with _ | ⟨next, rest⟩
    · exact .last hget
    · rw [List.append_cons] at hget
      exact .down (h.get?_of_append (by simp) hget) (ih (by simp) hget)

theorem get?_origin (hplace : tree.get? place = some .directory) :
    tree.get? (origin place target) = some .directory := by
  unfold origin
  split
  · exact tree.get?_nil
  · exact hplace

/-- A link that is met on a way from a directory stands in a directory. -/
theorem Grounded.advance_link (h : tree.Grounded) (hhere : tree.get? here = some .directory)
    (hway : tree.advance .content here way = .link place target rest) :
    tree.get? place = some .directory := by
  induction way generalizing here with
  | nil => cases hway
  | cons step more ih =>
    cases step with
    | stay => exact ih hhere hway
    | slash => exact ih hhere hway
    | up => exact ih (h.get?_dropLast hhere) hway
    | down name =>
      simp only [advance] at hway
      by_cases hlong : nameLimit < Text.utf8Size name
      · simp [hlong] at hway
      · rcases hget : tree.get? (here ++ [name]) with _ | (_ | _ | _)
        · by_cases hmore : more = [] <;> simp [hlong, hget, hmore] at hway
        · by_cases hmore : more = [] <;> simp [hlong, hget, hmore] at hway
        · exact ih hget (by simpa [hlong, hget] using hway)
        · obtain ⟨rfl, _, _⟩ : here = place ∧ _ ∧ _ := by simpa [hlong, hget] using hway
          exact hhere

/-- A way that does not end with a name, from a directory, ends at a directory or in front of a link
behind which there is still its last step. -/
theorem Grounded.advance_last (h : tree.Grounded) (hlast : ∀ name, last ≠ .down name)
    (hhere : tree.get? here = some .directory) :
    (∀ place, tree.advance .content here (before ++ [last]) = .at place →
      tree.get? place = some .directory) ∧
    ∀ place target rest, tree.advance .content here (before ++ [last]) = .link place target rest →
      ∃ before', rest = before' ++ [last] := by
  induction before generalizing here with
  | nil =>
    cases last with
    | down name => exact absurd rfl (hlast name)
    | stay => exact ⟨fun place hway => Stop.at.inj hway ▸ hhere, by simp [advance]⟩
    | slash => exact ⟨fun place hway => Stop.at.inj hway ▸ hhere, by simp [advance]⟩
    | up => exact ⟨fun place hway => Stop.at.inj hway ▸ h.get?_dropLast hhere, by simp [advance]⟩
  | cons step more ih =>
    cases step with
    | stay => exact ih hhere
    | slash => exact ih hhere
    | up => exact ih (h.get?_dropLast hhere)
    | down name =>
      simp only [List.cons_append, advance]
      by_cases hlong : nameLimit < Text.utf8Size name
      · simp [hlong]
      · -- behind a name there is still the last step, so only a directory is passed
        rcases hget : tree.get? (here ++ [name]) with _ | (_ | _ | target)
        · simp [hlong]
        · simp [hlong]
        · simpa [hlong] using ih hget
        · simp only [hlong, reduceCtorEq, and_false, false_and, if_false]
          refine ⟨by simp, fun place target' rest hway => ⟨more, ?_⟩⟩
          cases hway
          rfl

theorem Grounded.travel_last (h : tree.Grounded) (hlast : ∀ name, last ≠ .down name) {links : Nat}
    (hhere : tree.get? here = some .directory)
    (hway : tree.travel .content links here (before ++ [last]) = .ok place) :
    tree.get? place = some .directory := by
  induction links using Nat.strongRecOn generalizing here before with
  | ind links ih =>
    rcases travel_cases hway with hstop | ⟨left, there, target, rest, rfl, hstop, hrest⟩
    · exact (h.advance_last hlast hhere).1 _ hstop
    · obtain ⟨before', rfl⟩ := (h.advance_last hlast hhere).2 _ _ _ hstop
      rw [← List.append_assoc] at hrest
      exact ih left (Nat.lt_succ_self left) (get?_origin (h.advance_link hhere hstop)) hrest

/-! ## Ways for writing -/

/-- A way for writing goes as the one for reading, unless the latter comes to a way with a slash at its
end. -/
theorem Grounded.advance_creation (h : tree.Grounded) (hhere : tree.get? here = some .directory)
    (way : List Step) :
    tree.advance .creation here way = tree.advance .content here way ∨
      ∃ there before, tree.get? there = some .directory ∧
        tree.advance .content here way = tree.advance .content there (before ++ [.slash]) := by
  induction way generalizing here with
  | nil => exact .inl rfl
  | cons step more ih =>
    cases step with
    | stay => exact ih hhere
    | slash => exact ih hhere
    | up => exact ih (h.get?_dropLast hhere)
    | down name =>
      by_cases hslash : more = [.slash]
      · subst hslash
        exact .inr ⟨here, [.down name], hhere, rfl⟩
      · simp only [advance]
        by_cases hlong : nameLimit < Text.utf8Size name
        · simp [hlong]
        · rcases hget : tree.get? (here ++ [name]) with _ | (_ | _ | _)
          · simp [hlong, hslash]
          · simp [hlong, hslash]
          · simpa [hlong, hslash] using ih hget
          · simp [hlong, hslash]

/-- Ways for writing end where the ways for reading end, unless these end at a directory. -/
theorem Grounded.travel_creation (h : tree.Grounded) (hhere : tree.get? here = some .directory)
    (links : Nat) (way : List Step) :
    tree.travel .creation links here way = tree.travel .content links here way ∨
      ∀ place, tree.travel .content links here way = .ok place →
        tree.get? place = some .directory := by
  induction links generalizing here way with
  | zero =>
    rcases h.advance_creation hhere way with heq | ⟨there, before, hthere, hway⟩
    · left
      unfold travel
      rw [heq]
      cases tree.advance .content here way <;> rfl
    · rw [travel_congr 0 hway]
      exact .inr fun place => h.travel_last (by simp) hthere
  | succ links ih =>
    rcases h.advance_creation hhere way with heq | ⟨there, before, hthere, hway⟩
    · unfold travel
      rw [heq]
      rcases hstop : tree.advance .content here way with _ | ⟨there, target, rest⟩ | _
      · exact .inl rfl
      · exact ih (get?_origin (h.advance_link hhere hstop)) (steps target ++ rest)
      · exact .inl rfl
    · rw [travel_congr (links + 1) hway]
      exact .inr fun place => h.travel_last (by simp) hthere

/-- In a grounded tree, every path that can be read from a directory can be written over. -/
theorem Grounded.overwritesReadable (h : tree.Grounded) {directory : Location}
    (hdirectory : tree.get? directory = some .directory) : tree.OverwritesReadable directory := by
  intro path t hread
  obtain ⟨place, hlocate, hget⟩ := read_eq_ok_iff.1 hread
  have hcreation : tree.locate .creation directory path = .ok place := by
    rcases h.travel_creation (get?_origin hdirectory) linkLimit (steps path) with heq | hall
    · rw [← hlocate, locate, locate, heq]
    · -- the path would lead to a directory, and what was read is a file
      have hplace := hall place (travel_of_locate hlocate)
      simp [hget] at hplace
  refine ⟨tree.put place (.file (.text [])), ?_⟩
  simp [write, hcreation, hget]

end FileTree
end ExprMigration
