import ExprMigration.Proofs.FileTree.Grounded
import ExprMigration.Proofs.FileTree.Roots

/-!
# Files that are made

A new file is met only by ways that end at it, so that every way that led to its place leads there still
(`Grounded.travel_put`).  A path reads the text that was written to it (`Grounded.read_of_write`), and
the path from the top of the tree through the working directory reads it as well
(`Grounded.read_from_top`).
-/

namespace ExprMigration
namespace FileTree

variable {tree written : FileTree} {directory here place there : Location} {way rest : List Step}
  {name target path t : Text} {content : Content} {links : Nat}

/-! ## Names on a way -/

/-- The steps down lead to names. -/
def Named (way : List Step) : Prop := ∀ name, .down name ∈ way → Location.isName name

theorem named_steps (path : Text) : Named (steps path) := by
  intro name hname
  have hpart : .down name ∈ ((path.splitOn '/').filter (· ≠ [])).map Step.ofPart := by
    rcases List.mem_append.1 hname with hname | hname
    · exact hname
    · split at hname <;> simp at hname
  obtain ⟨part, hpart, hstep⟩ := List.mem_map.1 hpart
  obtain ⟨hsplit, hne⟩ := List.mem_filter.1 hpart
  have hslash := Text.notMem_of_mem_splitOn hsplit
  simp only [Step.ofPart] at hstep
  split at hstep
  · simp at hstep
  · split at hstep
    · simp at hstep
    · rename_i hdot hdots
      obtain rfl : part = name := by simpa using hstep
      exact Location.isName_iff.2 ⟨of_decide_eq_true hne, hdot, hdots, hslash⟩

/-- A way in front of a link is a part of the way to it. -/
theorem advance_link_subset (h : tree.advance .content here way = .link place target rest) :
    rest ⊆ way := by
  induction way generalizing here with
  | nil => cases h
  | cons step more ih =>
    refine List.subset_cons_of_subset step ?_
    cases step with
    | stay => exact ih h
    | slash => exact ih h
    | up => exact ih h
    | down name =>
      simp only [advance] at h
      by_cases hlong : nameLimit < Text.utf8Size name
      · simp [hlong] at h
      · rcases hget : tree.get? (here ++ [name]) with _ | (_ | _ | _)
        · by_cases hmore : more = [] <;> simp [hlong, hget, hmore] at h
        · by_cases hmore : more = [] <;> simp [hlong, hget, hmore] at h
        · exact ih (by simpa [hlong, hget] using h)
        · obtain ⟨-, -, rfl⟩ : here = place ∧ _ ∧ more = rest := by simpa [hlong, hget] using h
          exact List.Subset.refl more

/-! ## Ways past a new file -/

section Put

variable (hnew : tree.get? place = none) (hplace : Location.isPlace place)

include hnew hplace

/-- Where there was an entry, it is there still. -/
theorem get?_put_of_some {entry : Entry} (h : tree.get? there = some entry) :
    (tree.put place (.file content)).get? there = some entry := by
  have hne : place ≠ there := by
    rintro rfl
    simp [hnew] at h
  rw [get?_put tree there _ hplace, if_neg hne, h]

theorem Leads.put {names : List Text} (h : tree.Leads .directory here names) :
    (tree.put place (.file content)).Leads .directory here names := by
  induction h with
  | last h => exact .last (get?_put_of_some hnew hplace h)
  | down h _ ih => exact .down (get?_put_of_some hnew hplace h) ih

theorem advance_put (h : tree.advance .content here way = .at place ∨
      ∃ there target rest, tree.advance .content here way = .link there target rest) :
    (tree.put place (.file content)).advance .content here way =
      tree.advance .content here way := by
  induction way generalizing here with
  | nil => rfl
  | cons step more ih =>
    cases step with
    | stay => exact ih h
    | slash => exact ih h
    | up => exact ih h
    | down name =>
      simp only [advance] at h ⊢
      by_cases hlong : nameLimit < Text.utf8Size name
      · simp [hlong]
      rcases hget : tree.get? (here ++ [name]) with _ | (_ | _ | _)
      · by_cases hmore : more = []
        · obtain rfl : here ++ [name] = place := by simpa [hlong, hget, hmore] using h
          simp [hlong, hmore, get?_put tree _ _ hplace]
        · simp [hlong, hget, hmore] at h
      · simp [hlong, get?_put_of_some hnew hplace hget]
      · simpa [hlong, get?_put_of_some hnew hplace hget] using
          ih (by simpa [hlong, hget] using h)
      · simp [hlong, get?_put_of_some hnew hplace hget]

/-- A way to the place of a new file leads there as it did. -/
theorem travel_put (h : tree.travel .content links here way = .ok place) :
    (tree.put place (.file content)).travel .content links here way = .ok place := by
  induction links using Nat.strongRecOn generalizing here way with
  | ind links ih =>
    rcases travel_cases h with hstop | ⟨left, there, target, rest, rfl, hstop, hrest⟩
    · exact travel_of_advance_at ((advance_put hnew hplace (.inl hstop)).trans hstop) links
    · have hput : (tree.put place (.file content)).advance .content here way =
          .link there target rest :=
        (advance_put hnew hplace (.inr ⟨_, _, _, hstop⟩)).trans hstop
      rw [travel_of_advance_link hput]
      exact ih left (Nat.lt_succ_self left) hrest

end Put

/-! ## Where a file can be made -/

theorem steps_name (hname : Location.isName name) : steps name = [.down name] := by
  have hlast : name.getLast? ≠ some '/' := fun hlast =>
    (Location.isName_iff.1 hname).2.2.2 (List.mem_of_getLast? hlast)
  rw [steps_eq_way hlast, way_name hname]

theorem origin_name (hname : Location.isName name) (directory : Location) :
    origin directory name = directory := by
  have hrelative : ¬ Path.isAbsolute name := fun habsolute =>
    (Location.isName_iff.1 hname).2.2.2
      (List.mem_of_head? (by simpa [Path.isAbsolute] using habsolute))
  rw [origin, if_neg hrelative]

/-- What is wrong with a path alone is not seen in a tree. -/
theorem locate_eq_travel {purpose : Purpose} (h : tree.locate purpose directory path = .ok place)
    (other : FileTree) : other.locate purpose directory path =
      other.travel purpose linkLimit (origin directory path) (steps path) := by
  rw [locate] at h ⊢
  split at h
  · simp at h
  · split at h
    · simp at h
    · split at h
      · simp at h
      · rw [if_neg ‹_›, if_neg ‹_›, if_neg ‹_›]

section Grounded

variable (hgrounded : tree.Grounded)

include hgrounded

theorem Grounded.isPlace_of_advance (hhere : tree.get? here = some .directory) (hway : Named way)
    (h : tree.advance .content here way = .at place) (hnew : tree.get? place = none) :
    Location.isPlace place := by
  induction way generalizing here with
  | nil =>
    obtain rfl : here = place := Stop.at.inj h
    simp [hnew] at hhere
  | cons step more ih =>
    have hmore : Named more := fun name hname => hway name (List.mem_cons_of_mem _ hname)
    cases step with
    | stay => exact ih hhere hmore h
    | slash => exact ih hhere hmore h
    | up => exact ih (hgrounded.get?_dropLast hhere) hmore h
    | down name =>
      by_cases hdirectory : tree.get? (here ++ [name]) = some .directory
      · refine ih hdirectory hmore ?_
        by_cases hlong : nameLimit < Text.utf8Size name
        · simp [advance, hlong] at h
        · simpa [advance, hlong, hdirectory] using h
      · -- the way ends here, and at no entry
        obtain rfl : here ++ [name] = place := by
          simp only [advance] at h
          by_cases hlong : nameLimit < Text.utf8Size name
          · simp [hlong] at h
          rcases hget : tree.get? (here ++ [name]) with _ | (_ | _ | _) <;>
            by_cases hlast : more = [] <;> simp_all
        have hnames : ∀ n ∈ here, Location.isName n := by
          by_cases hroot : here = []
          · simp [hroot]
          · exact isName_of_get? hroot hhere
        simpa [Location.isPlace] using ⟨hnames, hway name List.mem_cons_self⟩

theorem Grounded.isPlace_of_travel (hhere : tree.get? here = some .directory) (hway : Named way)
    (h : tree.travel .content links here way = .ok place) (hnew : tree.get? place = none) :
    Location.isPlace place := by
  induction links using Nat.strongRecOn generalizing here way with
  | ind links ih =>
    rcases travel_cases h with hstop | ⟨left, there, target, rest, rfl, hstop, hrest⟩
    · exact hgrounded.isPlace_of_advance hhere hway hstop hnew
    · have hthere : tree.get? (origin there target) = some .directory :=
        get?_origin (hgrounded.advance_link hhere hstop)
      refine ih left (Nat.lt_succ_self left) hthere ?_ hrest
      intro name hname
      rcases List.mem_append.1 hname with hname | hname
      · exact named_steps target name hname
      · exact hway name (advance_link_subset hstop hname)

/-- A file that is made can be read under the path that it was made under. -/
theorem Grounded.read_of_write (hdirectory : tree.get? directory = some .directory)
    (hexists : tree.existsAt directory path = false)
    (h : tree.write directory path (.text t) = .ok written) :
    ∃ place, tree.get? place = none ∧ Location.isPlace place ∧
      written = tree.put place (.file (.text t)) ∧
      written.locate .content directory path = .ok place ∧ written.read directory path = .ok t := by
  rcases hcreation : tree.locate .creation directory path with fault | place
  · simp [write, hcreation] at h
  have hlocate : tree.locate .content directory path = .ok place := locate_content_of_creation hcreation
  have hnew : tree.get? place = none := by simpa [existsAt, hlocate] using hexists
  obtain rfl : tree.put place (.file (.text t)) = written := by
    simpa [write, hcreation, hnew] using h
  have htravel := travel_of_locate hlocate
  have hplace :=
    hgrounded.isPlace_of_travel (get?_origin hdirectory) (named_steps path) htravel hnew
  have hafter : (tree.put place (.file (.text t))).locate .content directory path = .ok place := by
    rw [locate_eq_travel hlocate]
    exact travel_put hnew hplace htravel
  refine ⟨place, hnew, hplace, rfl, hafter, read_eq_ok_iff.2 ⟨place, hafter, ?_⟩⟩
  rw [get?_put tree place _ hplace, if_pos rfl]

/-- And under its path from the top of the tree through the working directory, if that leads to an
entry. -/
theorem Grounded.read_from_top (hdirectory : tree.get? directory = some .directory)
    (hexists : tree.existsAt directory name = false) (hname : Location.isName name)
    (h : tree.write directory name (.text t) = .ok written)
    (htop : written.existsAt directory (Path.join ('/' :: Text.join ['/'] directory) name)) :
    written.read directory (Path.join ('/' :: Text.join ['/'] directory) name) = .ok t := by
  obtain ⟨place, hnew, hplace, hwritten, hlocate, hread⟩ :=
    hgrounded.read_of_write hdirectory hexists h
  obtain ⟨there, hthere⟩ : ∃ there, written.locate .content directory
      (Path.join ('/' :: Text.join ['/'] directory) name) = .ok there := by
    rw [existsAt] at htop
    split at htop
    · exact ⟨_, ‹_›⟩
    · simp at htop
  have hnames : ∀ n ∈ directory, Location.isName n := by
    by_cases hroot : directory = []
    · simp [hroot]
    · exact isName_of_get? hroot hdirectory
  have hway : way ('/' :: Text.join ['/'] directory) = directory.map .down := by
    rw [← way_join_names hnames]
    exact way_append [] _
  -- both ways come to the working directory and take one step from there
  have hfromTop : written.travel .content linkLimit [] (directory.map .down ++ [.down name]) =
      .ok there := by
    have hroute := travel_of_locate hthere
    rwa [origin, Path.isAbsolute_join (List.cons_ne_nil _ _) hname,
      steps_join (List.cons_ne_nil _ _) hname, hway] at hroute
  have hfromHere : written.travel .content linkLimit directory [.down name] = .ok place := by
    have hroute := travel_of_locate hlocate
    rwa [origin_name hname, steps_name hname] at hroute
  have hfrom : written.travel .content linkLimit directory [.down name] = .ok there := by
    by_cases hroot : directory = []
    · simpa [hroot] using hfromTop
    · have hleads : tree.Leads .directory [] directory := hgrounded.leads hroot hdirectory
      exact (hwritten ▸ hleads.put hnew hplace).travel (by simp) hfromTop
  obtain rfl : there = place := Except.ok.inj (hfrom.symm.trans hfromHere)
  simpa [read, hthere, hlocate] using hread

end Grounded

end FileTree
end ExprMigration
