import ExprMigration.Proofs.FileTree.Grounded
import ExprMigration.Proofs.FileTree.Relative
import ExprMigration.Proofs.FileTree.Spelling
import ExprMigration.Proofs.FileTree.Walk

/-!
# Spellings of a root

A root that is written relative to the working directory or from the top of the tree, with a leading
`./` or with a slash at its end, has one route from the top (`FileTree.fullRoute_of_mem_spellings`).
Walks that start at such spellings reach the same files by the same names (`Reaches.of_fullRoute`): all
spellings that lead somewhere lead to one place, and only a spelling without idle steps at its end leads
to a file.
-/

namespace ExprMigration
namespace FileTree

/-- The route of a path from the top of the tree. -/
def fullRoute (directory : Location) (path : Text) : List Step :=
  (origin directory path).map .down ++ route (steps path)

variable {tree : FileTree} {directory place place' : Location} {path root root' : Text}
  {names : List Text}

/-! ## Spellings -/

/-- A slash at the end does not change the route. -/
theorem fullRoute_slash (directory : Location) (hpath : path ≠ []) :
    fullRoute directory (path ++ ['/']) = fullRoute directory path := by
  have hway : way (path ++ ['/']) = way path := (way_append path []).trans (List.append_nil _)
  have habsolute : Path.isAbsolute (path ++ ['/']) = Path.isAbsolute path := by
    cases path with
    | nil => exact absurd rfl hpath
    | cons c cs => rfl
  rw [fullRoute, fullRoute, route_steps, route_steps, hway, origin, origin, habsolute]

/-- Nor does a leading `./`. -/
theorem fullRoute_here (directory : Location) (hpath : ¬ Path.isAbsolute path) :
    fullRoute directory ('.' :: '/' :: path) = fullRoute directory path := by
  have hway : way ('.' :: '/' :: path) = .stay :: way path := way_append ['.'] path
  have habsolute : Path.isAbsolute ('.' :: '/' :: path) = false := rfl
  rw [fullRoute, fullRoute, route_steps, route_steps, hway, origin, origin, habsolute,
    if_neg hpath, if_neg (by simp)]
  rfl

theorem way_join_names (hnames : ∀ n ∈ names, Location.isName n) :
    way (Text.join ['/'] names) = names.map .down := by
  rcases names with _ | ⟨first, rest⟩
  · rfl
  have hname {n : Text} (hn : n ∈ first :: rest) := Location.isName_iff.1 (hnames n hn)
  have hsplit : (Text.join ['/'] (first :: rest)).splitOn '/' = first :: rest :=
    Text.splitOn_join (by simp) fun n hn => (hname hn).2.2.2
  have hfilter : (first :: rest).filter (· ≠ []) = first :: rest :=
    List.filter_eq_self.2 fun n hn => decide_eq_true (hname hn).1
  rw [way, hsplit, hfilter]
  exact List.map_congr_left fun n hn => by simp [Step.ofPart, hname hn]

theorem route_map_down (names : List Text) : route (names.map .down) = names.map .down := by
  rw [route, List.filter_eq_self, List.forall_mem_map]
  exact fun _ _ => rfl

/-- Nor does the path of the working directory in front. -/
theorem fullRoute_absolute (hnames : ∀ n ∈ directory, Location.isName n)
    (hpath : ¬ Path.isAbsolute path) :
    fullRoute directory ('/' :: Text.join ['/'] directory ++ '/' :: path) =
      fullRoute directory path := by
  have hway : way ('/' :: Text.join ['/'] directory ++ '/' :: path) =
      directory.map .down ++ way path := by
    rw [way_append, ← way_join_names hnames]
    exact congrArg (· ++ way path) (way_append [] _)
  have habsolute : Path.isAbsolute ('/' :: Text.join ['/'] directory ++ '/' :: path) := rfl
  rw [fullRoute, fullRoute, route_steps, route_steps, hway, origin, origin, if_pos habsolute,
    if_neg hpath, route_append, route_map_down]
  rfl

/-- Spellings of a relative path: as it is, behind `./`, with a slash at its end, and behind the path of
the working directory. -/
def spellings (directory : Location) (path : Text) : List Text :=
  [path, '.' :: '/' :: path, path ++ ['/'], '/' :: Text.join ['/'] directory ++ '/' :: path]

theorem fullRoute_of_mem_spellings (hnames : ∀ n ∈ directory, Location.isName n) (hne : path ≠ [])
    (hpath : ¬ Path.isAbsolute path) (h : root ∈ spellings directory path) :
    fullRoute directory path = fullRoute directory root := by
  simp only [spellings, List.mem_cons, List.not_mem_nil, or_false] at h
  rcases h with rfl | rfl | rfl | rfl
  · rfl
  · exact (fullRoute_here directory hpath).symm
  · exact (fullRoute_slash directory hne).symm
  · exact (fullRoute_absolute hnames hpath).symm

/-! ## Where spellings lead -/

/-- A way along real directories can be left out. -/
theorem Leads.advance_append {purpose : Purpose} (hpurpose : purpose ≠ .creation)
    (h : tree.Leads .directory place names) (more : List Step) :
    tree.advance purpose place (names.map .down ++ more) =
        tree.advance purpose (place ++ names) more ∨
      tree.advance purpose place (names.map .down ++ more) = .fault .nameTooLong := by
  induction h with
  | @last place name hlast =>
    by_cases hlong : nameLimit < Text.utf8Size name
    · simp [FileTree.advance, hlong]
    · simp [FileTree.advance, hlong, hpurpose, hlast]
  | @down place name rest hdirectory hrest ih =>
    by_cases hlong : nameLimit < Text.utf8Size name
    · simp [FileTree.advance, hlong]
    · simpa [FileTree.advance, hlong, hpurpose, hdirectory] using ih

theorem Leads.travel {purpose : Purpose} (hpurpose : purpose ≠ .creation) {there : Location}
    (h : tree.Leads .directory place names) {links : Nat} {more : List Step}
    (htravel : tree.travel purpose links place (names.map .down ++ more) = .ok there) :
    tree.travel purpose links (place ++ names) more = .ok there := by
  rcases h.advance_append hpurpose more with heq | heq
  · rwa [travel_congr links heq] at htravel
  · unfold FileTree.travel at htravel
    simp [heq] at htravel

section Grounded

variable {purpose : Purpose} (hpurpose : purpose ≠ .creation) (hgrounded : tree.Grounded)
  (hdirectory : tree.get? directory = some .directory)

include hpurpose hgrounded hdirectory

/-- What is reached from the top by way of the working directory is reached from there. -/
theorem travel_of_top {links : Nat} {more : List Step}
    (h : tree.travel purpose links [] (directory.map .down ++ more) = .ok place) :
    tree.travel purpose links directory more = .ok place := by
  by_cases hne : directory = []
  · simpa [hne] using h
  · have hleads : tree.Leads .directory [] directory := hgrounded.leads hne hdirectory
    exact hleads.travel hpurpose h

/-- Two routes that are the same from the top lead to the same place. -/
theorem place_eq_of_fullRoute (hroute : fullRoute directory root = fullRoute directory root')
    (h : tree.travel purpose linkLimit (origin directory root) (route (steps root)) = .ok place)
    (h' : tree.travel purpose linkLimit (origin directory root') (route (steps root')) = .ok place') :
    place = place' := by
  have htop {p q : Text} {there there' : Location}
      (hroute : fullRoute directory p = fullRoute directory q)
      (hp : Path.isAbsolute p = false) (hq : Path.isAbsolute q = true)
      (h : tree.travel purpose linkLimit (origin directory p) (route (steps p)) = .ok there)
      (h' : tree.travel purpose linkLimit (origin directory q) (route (steps q)) = .ok there') :
      there = there' := by
    simp only [fullRoute, origin, hp, hq, if_true, Bool.false_eq_true, if_false, List.map_nil,
      List.nil_append] at hroute h h'
    rw [← hroute] at h'
    exact Except.ok.inj (h.symm.trans (travel_of_top hpurpose hgrounded hdirectory h'))
  rcases hp : Path.isAbsolute root with _ | _ <;> rcases hq : Path.isAbsolute root' with _ | _
  · have heq : route (steps root) = route (steps root') := by
      simpa [fullRoute, origin, hp, hq] using hroute
    simp only [origin, hp, hq, heq] at h h'
    exact Except.ok.inj (h.symm.trans h')
  · exact htop hroute hp hq h h'
  · exact (htop hroute.symm hq hp h' h).symm
  · have heq : route (steps root) = route (steps root') := by
      simpa [fullRoute, origin, hp, hq] using hroute
    simp only [origin, hp, hq, heq] at h h'
    exact Except.ok.inj (h.symm.trans h')

end Grounded

/-! ## Roots that are files -/

theorem step?_ne_none_of_mem_tail {c : Component} (h : c ∈ (Path.components path).tail) :
    c.step? ≠ none := by
  have hinner {parts : List Text} (h : c ∈ parts.filterMap Component.ofPart?) : c.step? ≠ none := by
    obtain ⟨part, -, hpart⟩ := List.mem_filterMap.1 h
    simp only [Component.ofPart?] at hpart
    split at hpart
    · simp at hpart
    · split at hpart <;> (cases hpart; simp [Component.step?])
  rw [Path.components] at h
  rcases hsplit : Text.splitOn '/' path with _ | ⟨first, rest⟩
  · exact absurd hsplit (Text.splitOn_ne_nil '/' path)
  rw [hsplit] at h
  simp only at h
  split at h
  · split at h
    · simp at h
    · exact hinner h
  · split at h
    · exact hinner h
    · rcases hfirst : Component.ofPart? first with _ | component
      · rw [hfirst] at h
        exact hinner (List.mem_of_mem_tail h)
      · rw [hfirst] at h
        exact hinner h

/-- A path whose last step is a name ends with that name. -/
theorem fileName_of_route {name : Text} (h : (route (steps path)).getLast? = some (.down name)) :
    Path.fileName path = name := by
  rw [route_eq] at h
  rcases List.eq_nil_or_concat (Path.components path) with hnil | ⟨init, last, hcomponents⟩
  · simp [hnil] at h
  rw [List.concat_eq_append] at hcomponents
  rcases hlast : last.step? with _ | step
  · -- only the first component makes no step
    have hinit : init = [] := by
      rcases init with _ | ⟨c, init⟩
      · rfl
      · have hmem : last ∈ (Path.components path).tail := by simp [hcomponents]
        exact absurd hlast (step?_ne_none_of_mem_tail hmem)
    simp [hcomponents, hinit, hlast] at h
  · rw [hcomponents] at h
    obtain rfl : step = .down name := by simpa [hlast] using h
    cases last with
    | name part =>
      obtain rfl : part = name := by simpa [Component.step?] using hlast
      simp [Path.fileName, hcomponents]
    | root => simp [Component.step?] at hlast
    | here => simp [Component.step?] at hlast
    | up => simp [Component.step?] at hlast

section File

variable (hgrounded : tree.Grounded) (hdirectory : tree.get? directory = some .directory)
  {content : Content} (hcontent : tree.locate .content directory root = .ok place)
  (hget : tree.get? place = some (.file content))

include hgrounded hdirectory hcontent hget

/-- The path of a file ends with a name. -/
theorem exists_getLast?_steps : ∃ name, (steps root).getLast? = some (.down name) := by
  have htravel := travel_of_locate hcontent
  have horigin : tree.get? (origin directory root) = some .directory := get?_origin hdirectory
  rcases List.eq_nil_or_concat (steps root) with hnil | ⟨before, last, hsteps⟩
  · rw [hnil] at htravel
    unfold travel at htravel
    obtain rfl : origin directory root = place := by simpa [advance] using htravel
    simp [horigin] at hget
  · rw [List.concat_eq_append] at hsteps
    by_cases hlast : ∃ name, last = .down name
    · obtain ⟨name, rfl⟩ := hlast
      exact ⟨name, by simp [hsteps]⟩
    · rw [hsteps] at htravel
      have hplace := hgrounded.travel_last (fun name hname => hlast ⟨name, hname⟩) horigin htravel
      simp [hget] at hplace

theorem exists_getLast?_fullRoute : ∃ name, (steps root).getLast? = some (.down name) ∧
    (route (steps root)).getLast? = some (.down name) ∧
    (fullRoute directory root).getLast? = some (.down name) := by
  obtain ⟨name, hname⟩ := exists_getLast?_steps hgrounded hdirectory hcontent hget
  obtain ⟨before, hsteps⟩ := List.getLast?_eq_some_iff.1 hname
  have hroute : route (steps root) = route before ++ [.down name] := by
    rw [hsteps, route_append]
    rfl
  exact ⟨name, hname, by simp [hroute], by simp [fullRoute, hroute]⟩

/-- The path of a file has no idle step at its end, so that its route leads to the entry itself. -/
theorem travel_route_entry {there : Location}
    (hentry : tree.locate .entry directory root = .ok there) :
    tree.travel .entry linkLimit (origin directory root) (route (steps root)) = .ok there := by
  obtain ⟨name, hname, -⟩ := exists_getLast?_fullRoute hgrounded hdirectory hcontent hget
  have htravel := travel_of_locate hentry
  have hpurpose : Purpose.entry ≠ .creation := by decide
  rcases tree.travel_eq_route hpurpose linkLimit (origin directory root) (steps root) with
    heq | ⟨idle, hidle, hlast, -⟩
  · rwa [← heq]
  · obtain rfl := Option.some.inj (hname.symm.trans hlast)
    simp [Step.isIdle] at hidle

end File

/-! ## Walks from two spellings -/

section Walks

variable (hgrounded : tree.Grounded) (hdirectory : tree.get? directory = some .directory)
  (hroute : fullRoute directory root = fullRoute directory root')

include hgrounded hdirectory hroute

theorem place_eq_of_locate (h : tree.locate .content directory root = .ok place)
    (h' : tree.locate .content directory root' = .ok place') : place = place' :=
  place_eq_of_fullRoute (by decide) hgrounded hdirectory hroute (travel_route_of_locate h)
    (travel_route_of_locate h')

/-- A walk that meets no fault reaches the files that are reached from another spelling of its root. -/
theorem Reaches.of_fullRoute (hclean : ∀ fault, .error fault ∉ tree.walk directory root')
    (h : tree.Reaches directory root names) : tree.Reaches directory root' names := by
  have hstart := walkStart_walk tree directory root'
  generalize tree.walk directory root' = items at hclean hstart
  cases h with
  | root hentry hget =>
    have hcontent := locate_entry hentry (by simp [hget])
    cases hstart with
    | fault fault => exact absurd List.mem_cons_self (hclean _)
    | file hentry' hget' => exact .root hentry' hget'
    | directory _ _ _ hcontent' hget' =>
      obtain rfl := place_eq_of_locate hgrounded hdirectory hroute hcontent hcontent'
      simp [hget] at hget'
    | link hentry' hthere' hcontent' =>
      -- without idle steps at the end, both spellings lead to one entry, which is the file
      obtain rfl := place_eq_of_locate hgrounded hdirectory hroute hcontent hcontent'
      obtain rfl := place_eq_of_fullRoute (by decide) hgrounded hdirectory hroute
        (travel_route_entry hgrounded hdirectory hcontent hget hentry)
        (travel_route_entry hgrounded hdirectory hcontent' hget hentry')
      simp [hget] at hthere'
  | below hcontent hget hleads =>
    cases hstart with
    | fault fault => exact absurd List.mem_cons_self (hclean _)
    | file hentry' hget' =>
      have hcontent' := locate_entry hentry' (by simp [hget'])
      obtain rfl := place_eq_of_locate hgrounded hdirectory hroute hcontent hcontent'
      simp [hget] at hget'
    | directory _ _ _ hcontent' hget' =>
      obtain rfl := place_eq_of_locate hgrounded hdirectory hroute hcontent hcontent'
      exact .below hcontent' hget' hleads
    | link _ _ hcontent' hget' =>
      obtain rfl := place_eq_of_locate hgrounded hdirectory hroute hcontent hcontent'
      exact absurd hget hget'

/-- Spellings of a root that is a file end with one name. -/
theorem Reaches.fileName_eq (h : tree.Reaches directory root [])
    (h' : tree.Reaches directory root' []) : Path.fileName root = Path.fileName root' := by
  have hname {root : Text} (h : tree.Reaches directory root []) :
      ∃ name, Path.fileName root = name ∧
        (fullRoute directory root).getLast? = some (.down name) := by
    cases h with
    | root hentry hget =>
      have hcontent := locate_entry hentry (by simp [hget])
      obtain ⟨name, -, hlast, hfull⟩ :=
        exists_getLast?_fullRoute hgrounded hdirectory hcontent hget
      exact ⟨name, fileName_of_route hlast, hfull⟩
    | below _ _ hleads => exact absurd rfl hleads.ne_nil
  obtain ⟨name, rfl, hlast⟩ := hname h
  obtain ⟨name', rfl, hlast'⟩ := hname h'
  rw [hroute, hlast'] at hlast
  simpa using hlast.symm

end Walks

end FileTree
end ExprMigration
