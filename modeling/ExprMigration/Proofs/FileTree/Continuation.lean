import ExprMigration.Proofs.FileTree.Shape

/-!
# Paths continued by names

A path that leads to a directory, continued by the names on the way from there to an entry
(`FileTree.Leads`), leads to that entry and nowhere else (`locate_continued`).  Its components are those
of the path and the names (`components_continued`).
-/

namespace ExprMigration

/-! ## Splitting -/

namespace Text

theorem splitOn_ne_nil (sep : Char) (t : Text) : splitOn sep t ≠ [] := by
  cases t with
  | nil => simp [splitOn]
  | cons c cs =>
    simp only [splitOn]
    split
    · simp
    · split <;> simp

theorem splitOn_of_notMem {sep : Char} {t : Text} (h : sep ∉ t) : splitOn sep t = [t] := by
  induction t with
  | nil => rfl
  | cons c cs ih =>
    obtain ⟨hc, hcs⟩ : sep ≠ c ∧ sep ∉ cs := by simpa using h
    simp [splitOn, Ne.symm hc, ih hcs]

theorem splitOn_append (sep : Char) (s t : Text) :
    splitOn sep (s ++ sep :: t) = splitOn sep s ++ splitOn sep t := by
  induction s with
  | nil => simp [splitOn]
  | cons c cs ih =>
    simp only [List.cons_append, splitOn, ih]
    by_cases hc : c = sep
    · simp [hc]
    · rcases hsplit : splitOn sep cs with _ | ⟨part, parts⟩
      · exact absurd hsplit (splitOn_ne_nil sep cs)
      · simp [hc]

end Text

/-! ## Joining a name -/

namespace Path

/-- A path without one slash at its end. -/
def IsTrunk (trunk base : Text) : Prop := base = trunk ∨ base = trunk ++ ['/']

end Path

variable {base name : Text}

theorem Location.isName_iff : Location.isName name ↔
    name ≠ [] ∧ name ≠ ['.'] ∧ name ≠ ['.', '.'] ∧ '/' ∉ name := by
  simp [Location.isName, and_assoc]

namespace Path

/-- Joining a name puts it behind exactly one slash more than the trunk. -/
theorem exists_trunk (hbase : base ≠ []) (hname : Location.isName name) :
    ∃ trunk, IsTrunk trunk base ∧ join base name = trunk ++ '/' :: name := by
  obtain ⟨hne, _, _, hslash⟩ := Location.isName_iff.1 hname
  have hrelative : isAbsolute name = false := by
    cases name with
    | nil => rfl
    | cons c cs =>
      simp at hslash
      simp [isAbsolute, Ne.symm hslash.1]
  by_cases hlast : base.getLast? = some '/'
  · obtain ⟨trunk, rfl⟩ := List.getLast?_eq_some_iff.1 hlast
    exact ⟨trunk, .inr rfl, by simp [join, hrelative]⟩
  · exact ⟨base, .inl rfl, by simp [join, hrelative, hbase, hlast]⟩

theorem join_ne_nil (hbase : base ≠ []) (hname : Location.isName name) : join base name ≠ [] := by
  obtain ⟨trunk, _, h⟩ := exists_trunk hbase hname
  simp [h]

theorem getLast?_join_ne (hbase : base ≠ []) (hname : Location.isName name) :
    (join base name).getLast? ≠ some '/' := by
  obtain ⟨trunk, _, h⟩ := exists_trunk hbase hname
  obtain ⟨hne, _, _, hslash⟩ := Location.isName_iff.1 hname
  rw [h, List.getLast?_append, List.getLast?_cons]
  intro hlast
  have hmem : '/' ∈ name := List.mem_of_getLast? (by simpa [List.getLast?_eq_some_getLast hne] using hlast)
  exact hslash hmem

theorem isAbsolute_join (hbase : base ≠ []) (hname : Location.isName name) :
    isAbsolute (join base name) = isAbsolute base := by
  obtain ⟨trunk, htrunk, h⟩ := exists_trunk hbase hname
  rw [h]
  rcases htrunk with rfl | rfl
  · cases base with
    | nil => exact absurd rfl hbase
    | cons c cs => rfl
  · cases trunk <;> rfl

/-- A name that is joined is one component more. -/
theorem components_join (hbase : base ≠ []) (hname : Location.isName name) :
    components (join base name) = components base ++ [.name name] := by
  obtain ⟨trunk, htrunk, h⟩ := exists_trunk hbase hname
  obtain ⟨hne, hdot, hdots, hslash⟩ := Location.isName_iff.1 hname
  have hpart : Component.ofPart? name = some (.name name) := by
    simp [Component.ofPart?, hne, hdot, hdots]
  have hempty : Component.ofPart? [] = none := rfl
  have hjoin : Text.splitOn '/' (join base name) = Text.splitOn '/' trunk ++ [name] := by
    rw [h, Text.splitOn_append, Text.splitOn_of_notMem hslash]
  rcases hsplit : Text.splitOn '/' trunk with _ | ⟨first, rest⟩
  · exact absurd hsplit (Text.splitOn_ne_nil '/' trunk)
  rcases htrunk with rfl | rfl
  · -- a base that is one empty part is empty
    have hfirst : first = [] → rest ≠ [] := by
      rintro rfl rfl
      have := Text.join_splitOn '/' base
      rw [hsplit] at this
      exact hbase (by simpa [Text.join] using this.symm)
    simp only [components, hjoin, hsplit, List.cons_append, List.filterMap_append,
      List.filterMap_cons, hpart, List.filterMap_nil]
    by_cases hnil : first = []
    · simp [hnil, hfirst hnil]
    · by_cases hhere : first = ['.'] <;> simp [hnil, hhere]
  · have hbase' : Text.splitOn '/' (trunk ++ ['/']) = first :: (rest ++ [[]]) := by
      rw [Text.splitOn_append, hsplit]
      rfl
    simp only [components, hjoin, hbase', hsplit, List.cons_append, List.filterMap_append,
      List.filterMap_cons, hpart, hempty, List.filterMap_nil, List.append_nil]
    by_cases hnil : first = []
    · simp [hnil]
    · by_cases hhere : first = ['.'] <;> simp [hnil, hhere]

end Path

/-! ## The way of a continued path -/

namespace FileTree

/-- The steps of a path but for the slash at its end. -/
def way (path : Text) : List Step := ((path.splitOn '/').filter (· ≠ [])).map Step.ofPart

theorem steps_eq_way (h : base.getLast? ≠ some '/') : steps base = way base := by
  simp [steps, way, h]

theorem way_append (front path : Text) : way (front ++ '/' :: path) = way front ++ way path := by
  simp [way, Text.splitOn_append]

theorem way_name (hname : Location.isName name) : way name = [.down name] := by
  obtain ⟨hne, hdot, hdots, hslash⟩ := Location.isName_iff.1 hname
  simp [way, Text.splitOn_of_notMem hslash, hne, Step.ofPart, hdot, hdots]

theorem way_join (hbase : base ≠ []) (hname : Location.isName name) :
    way (Path.join base name) = way base ++ [.down name] := by
  obtain ⟨trunk, htrunk, h⟩ := Path.exists_trunk hbase hname
  have htrunkWay : way base = way trunk := by
    rcases htrunk with rfl | rfl
    · rfl
    · exact (way_append trunk []).trans (List.append_nil _)
  rw [htrunkWay, h, way_append, way_name hname]

theorem steps_join (hbase : base ≠ []) (hname : Location.isName name) :
    steps (Path.join base name) = way base ++ [.down name] := by
  rw [steps_eq_way (Path.getLast?_join_ne hbase hname), way_join hbase hname]

variable {names : List Text}

/-- What names behind a path add to it. -/
theorem foldl_join (hbase : base ≠ []) (hnames : ∀ n ∈ names, Location.isName n) :
    names.foldl Path.join base ≠ [] ∧
    Path.isAbsolute (names.foldl Path.join base) = Path.isAbsolute base ∧
    Path.components (names.foldl Path.join base) =
      Path.components base ++ names.map Component.name ∧
    way (names.foldl Path.join base) = way base ++ names.map Step.down := by
  induction names generalizing base with
  | nil => simp [hbase]
  | cons n rest ih =>
    have hn : Location.isName n := hnames n List.mem_cons_self
    obtain ⟨hne, habsolute, hcomponents, hway⟩ :=
      ih (Path.join_ne_nil hbase hn) fun m hm => hnames m (List.mem_cons_of_mem _ hm)
    rw [List.foldl_cons, habsolute, hcomponents, hway, Path.isAbsolute_join hbase hn,
      Path.components_join hbase hn, way_join hbase hn]
    exact ⟨hne, rfl, by simp, by simp⟩

/-- Names behind a path add as many components, so different names make different paths. -/
theorem components_continued (hbase : base ≠ []) (hnames : ∀ n ∈ names, Location.isName n) :
    Path.components (names.foldl Path.join base) =
      Path.components base ++ names.map Component.name :=
  (foldl_join hbase hnames).2.2.1

theorem steps_continued (hbase : base ≠ []) (hne : names ≠ [])
    (hnames : ∀ n ∈ names, Location.isName n) :
    steps (names.foldl Path.join base) = way base ++ names.map Step.down := by
  rcases List.eq_nil_or_concat names with rfl | ⟨init, n, rfl⟩
  · exact absurd rfl hne
  · have hinit : ∀ m ∈ init, Location.isName m := fun m hm => hnames m (by simp [hm])
    obtain ⟨hnil, _, _, hway⟩ := foldl_join hbase hinit
    simp only [List.concat_eq_append, List.foldl_append, List.foldl_cons, List.foldl_nil]
    rw [steps_join hnil (hnames n (by simp)), hway]
    simp

/-! ## Names that lead to an entry -/

/-- Names that lead from a location, through real directories only, to an entry. -/
inductive Leads (tree : FileTree) (entry : Entry) : Location → List Text → Prop
  | last {place : Location} {name : Text} (h : tree.get? (place ++ [name]) = some entry) :
      Leads tree entry place [name]
  | down {place : Location} {name : Text} {names : List Text}
      (h : tree.get? (place ++ [name]) = some .directory)
      (hrest : Leads tree entry (place ++ [name]) names) : Leads tree entry place (name :: names)

section Leads

variable {tree : FileTree} {entry : Entry} {place : Location}

theorem Leads.ne_nil (h : tree.Leads entry place names) : names ≠ [] := by
  cases h <;> simp

theorem Leads.get? (h : tree.Leads entry place names) : tree.get? (place ++ names) = some entry := by
  induction h with
  | last h => exact h
  | down h hrest ih => simpa using ih

/-- Where an entry stands, every name can be one. -/
theorem isName_of_get? (hne : place ≠ []) (h : tree.get? place = some entry) :
    ∀ n ∈ place, Location.isName n := by
  have hplaced := tree.placed _ (mem_entries_of_get? hne h)
  simp only [Location.isPlace, Bool.and_eq_true, List.all_eq_true] at hplaced
  exact hplaced.2

theorem Leads.isName (h : tree.Leads entry place names) : ∀ n ∈ names, Location.isName n := by
  have hne : place ++ names ≠ [] := List.append_ne_nil_of_right_ne_nil _ h.ne_nil
  exact fun n hn => isName_of_get? hne h.get? n (List.mem_append_right _ hn)

end Leads

/-! ## Following a longer way -/

/-- A step that goes nowhere. -/
def Step.isIdle : Step → Bool
  | .stay | .slash => true
  | .up | .down _ => false

section Travel

variable {tree : FileTree} {here place : Location} {before more : List Step}

/-- An idle step within a way does not count. -/
theorem advance_idle (tree : FileTree) {purpose : Purpose} (hpurpose : purpose ≠ .creation)
    {idle : Step} (hidle : idle.isIdle) (here : Location) (before : List Step) (hmore : more ≠ []) :
    tree.advance purpose here (before ++ idle :: more) =
      tree.advance purpose here (before ++ more) ∨
    ∃ place target rest,
      tree.advance purpose here (before ++ idle :: more) =
        .link place target (rest ++ idle :: more) ∧
      tree.advance purpose here (before ++ more) = .link place target (rest ++ more) := by
  induction before generalizing here with
  | nil =>
    left
    cases idle with
    | stay => rfl
    | slash => rfl
    | up => simp [Step.isIdle] at hidle
    | down name => simp [Step.isIdle] at hidle
  | cons step rest ih =>
    cases step with
    | stay => exact ih here
    | slash => exact ih here
    | up => exact ih here.dropLast
    | down name =>
      simp only [List.cons_append, advance]
      by_cases hlong : nameLimit < Text.utf8Size name
      · simp [hlong]
      · rcases tree.get? (here ++ [name]) with _ | (_ | _ | target)
        -- a name with nothing or a file behind it fails on both ways
        · simp [hlong, hpurpose, hmore]
        · simp [hlong, hpurpose, hmore]
        · simpa [hlong, hpurpose] using ih (here ++ [name])
        · refine .inr ⟨here, target, rest, ?_, ?_⟩ <;> simp [hlong, hpurpose, hmore]

theorem travel_idle (tree : FileTree) {purpose : Purpose} (hpurpose : purpose ≠ .creation)
    {idle : Step} (hidle : idle.isIdle) (links : Nat) (here : Location) (before : List Step)
    (hmore : more ≠ []) :
    tree.travel purpose links here (before ++ idle :: more) =
      tree.travel purpose links here (before ++ more) := by
  induction links generalizing here before with
  | zero =>
    unfold travel
    rcases tree.advance_idle hpurpose hidle here before hmore with h | ⟨place, target, rest, h, h'⟩
    · rw [h]
    · rw [h, h']
  | succ links ih =>
    unfold travel
    rcases tree.advance_idle hpurpose hidle here before hmore with h | ⟨place, target, rest, h, h'⟩
    · rw [h]
    · rw [h, h']
      simpa using ih (origin place target) (steps target ++ rest)

/-- A way that ends at a directory can be continued from there. -/
theorem advance_append (hmore : more ≠ []) :
    (∀ place, tree.advance .content here before = .at place →
      tree.get? place = some .directory →
      tree.advance .content here (before ++ more) = tree.advance .content place more) ∧
    (∀ place target rest, tree.advance .content here before = .link place target rest →
      tree.advance .content here (before ++ more) = .link place target (rest ++ more)) := by
  induction before generalizing here with
  | nil =>
    refine ⟨fun place h _ => ?_, fun place target rest h => ?_⟩
    · cases h
      rfl
    · cases h
  | cons step rest ih =>
    cases step with
    | stay => exact ih
    | slash => exact ih
    | up => exact ih
    | down name =>
      simp only [List.cons_append, advance]
      by_cases hlong : nameLimit < Text.utf8Size name
      · simp [hlong]
      · by_cases hrest : rest = []
        · -- only the last name may be without a directory, and `more` follows it
          subst hrest
          rcases hget : tree.get? (here ++ [name]) with _ | (_ | _ | target) <;>
            simp [hlong, hmore, advance, hget]
        · rcases tree.get? (here ++ [name]) with _ | (_ | _ | target)
          · simp [hlong, hrest]
          · simp [hlong, hrest]
          · simpa [hlong] using ih
          · simp [hlong]

/-- A way that leads somewhere ends there, or in front of a link from whose target its rest is gone. -/
theorem travel_cases {purpose : Purpose} {links : Nat} {way : List Step}
    (h : tree.travel purpose links here way = .ok place) :
    tree.advance purpose here way = .at place ∨
      ∃ left there target rest, links = left + 1 ∧
        tree.advance purpose here way = .link there target rest ∧
        tree.travel purpose left (origin there target) (steps target ++ rest) = .ok place := by
  unfold travel at h
  rcases hstop : tree.advance purpose here way with stop | ⟨there, target, rest⟩ | fault
  · rw [hstop] at h
    exact .inl (congrArg Stop.at (Except.ok.inj h))
  · rw [hstop] at h
    cases links with
    | zero => simp at h
    | succ left => exact .inr ⟨left, there, target, rest, rfl, rfl, h⟩
  · simp [hstop] at h

theorem travel_of_advance_at {purpose : Purpose} {way : List Step}
    (h : tree.advance purpose here way = .at place) (links : Nat) :
    tree.travel purpose links here way = .ok place := by
  unfold travel
  rw [h]

theorem travel_of_advance_link {purpose : Purpose} {there : Location} {way rest : List Step}
    {target : Text} (h : tree.advance purpose here way = .link there target rest) (left : Nat) :
    tree.travel purpose (left + 1) here way =
      tree.travel purpose left (origin there target) (steps target ++ rest) := by
  rw [travel.eq_def, h]

theorem travel_congr {purpose : Purpose} {there : Location} {way way' : List Step} (links : Nat)
    (h : tree.advance purpose here way = tree.advance purpose there way') :
    tree.travel purpose links here way = tree.travel purpose links there way' := by
  cases links <;> rw [travel.eq_def, travel.eq_def, h]

/-- A way that leads to a directory can be continued from there, with the links that are left. -/
theorem travel_append {links : Nat} (hmore : more ≠ [])
    (h : tree.travel .content links here before = .ok place)
    (hplace : tree.get? place = some .directory) :
    ∃ left, tree.travel .content links here (before ++ more) =
      tree.travel .content left place more := by
  induction links using Nat.strongRecOn generalizing here before with
  | ind links ih =>
    rcases travel_cases h with hstop | ⟨left, there, target, rest, rfl, hstop, hrest⟩
    · exact ⟨links, travel_congr links ((advance_append hmore).1 _ hstop hplace)⟩
    · obtain ⟨left', hleft⟩ := ih left (Nat.lt_succ_self left) hrest
      refine ⟨left', ?_⟩
      rw [travel_of_advance_link ((advance_append hmore).2 _ _ _ hstop), ← List.append_assoc, hleft]

/-- Names lead from one directory to the next, and at last to the entry. -/
theorem Leads.advance {names : List Text} {entry : Entry} (h : tree.Leads entry place names)
    (hentry : ∀ target, entry ≠ .link target) :
    tree.advance .content place (names.map .down) = .at (place ++ names) ∨
      tree.advance .content place (names.map .down) = .fault .nameTooLong := by
  induction h with
  | @last place name hlast =>
    by_cases hlong : nameLimit < Text.utf8Size name
    · simp [FileTree.advance, hlong]
    · cases entry with
      | file content => simp [FileTree.advance, hlong, hlast]
      | directory => simp [FileTree.advance, hlong, hlast]
      | link target => exact absurd rfl (hentry target)
  | @down place name rest hdirectory hrest ih =>
    by_cases hlong : nameLimit < Text.utf8Size name
    · simp [FileTree.advance, hlong]
    · simpa [FileTree.advance, hlong, hdirectory] using ih

theorem ne_nil_of_locate {purpose : Purpose} {directory : Location} {path : Text}
    (h : tree.locate purpose directory path = .ok place) : path ≠ [] := by
  rintro rfl
  simp [locate] at h

theorem travel_of_locate {purpose : Purpose} {directory : Location} {path : Text}
    (h : tree.locate purpose directory path = .ok place) :
    tree.travel purpose linkLimit (origin directory path) (steps path) = .ok place := by
  rw [locate, if_neg (ne_nil_of_locate h)] at h
  split at h
  · simp at h
  · split at h
    · simp at h
    · exact h

/-- A path that leads to a directory, continued by names that lead from there to an entry, leads to
that entry if it leads anywhere, unless the entry is a link. -/
theorem locate_continued {directory target : Location} {names : List Text} {entry : Entry}
    (hbase : tree.locate .content directory base = .ok place)
    (hplace : tree.get? place = some .directory) (hleads : tree.Leads entry place names)
    (hentry : ∀ target, entry ≠ .link target)
    (h : tree.locate .content directory (names.foldl Path.join base) = .ok target) :
    target = place ++ names := by
  have hne := hleads.ne_nil
  have hnames := hleads.isName
  have hbaseNe : base ≠ [] := ne_nil_of_locate hbase
  have hmore : names.map Step.down ≠ [] := by simpa using hne
  obtain ⟨_, habsolute, _, _⟩ := foldl_join hbaseNe hnames
  have htravel : tree.travel .content linkLimit (origin directory base)
      (way base ++ names.map Step.down) = .ok target := by
    have hlong := travel_of_locate h
    rwa [origin, habsolute, steps_continued hbaseNe hne hnames] at hlong
  obtain ⟨left, hleft⟩ := travel_append hmore (travel_of_locate hbase) hplace
  have hsteps : tree.travel .content linkLimit (origin directory base)
      (steps base ++ names.map Step.down) = .ok target := by
    by_cases hlast : base.getLast? = some '/'
    · have hslash : steps base = way base ++ [.slash] := by simp [steps, way, hlast]
      rw [hslash, List.append_assoc]
      exact (tree.travel_idle (by simp) rfl linkLimit _ (way base) hmore).trans htravel
    · rwa [steps_eq_way hlast]
  rw [hsteps] at hleft
  unfold travel at hleft
  rcases hleads.advance hentry with hnames | hnames
  · simpa [hnames] using hleft
  · simp [hnames] at hleft

end Travel

/-! ## The entry at a path -/

section Entry

variable {tree : FileTree} {directory place : Location} {path : Text}

/-- A way to an entry itself leads where the way to its content leads, unless it stops at a link. -/
theorem advance_entry (tree : FileTree) (here : Location) (way : List Step) :
    tree.advance .entry here way = tree.advance .content here way ∨
      ∃ place target, tree.advance .entry here way = .at place ∧
        tree.get? place = some (.link target) := by
  induction way generalizing here with
  | nil => exact .inl rfl
  | cons step rest ih =>
    cases step with
    | stay => exact ih here
    | slash => exact ih here
    | up => exact ih here.dropLast
    | down name =>
      simp only [advance]
      by_cases hlong : nameLimit < Text.utf8Size name
      · simp [hlong]
      · rcases hget : tree.get? (here ++ [name]) with _ | (_ | _ | target)
        · simp [hlong]
        · simp [hlong]
        · simpa [hlong] using ih (here ++ [name])
        · by_cases hrest : rest = []
          · exact .inr ⟨here ++ [name], target, by simp [hlong, hrest], hget⟩
          · simp [hlong, hrest]

/-- A path to an entry that is no link leads to its content. -/
theorem locate_entry (h : tree.locate .entry directory path = .ok place)
    (hplace : ∀ target, tree.get? place ≠ some (.link target)) :
    tree.locate .content directory path = .ok place := by
  have hentry : tree.locate .entry directory path = tree.locate .content directory path ∨
      ∃ there target, tree.locate .entry directory path = .ok there ∧
        tree.get? there = some (.link target) := by
    refine locate_or (p := fun result => ∃ there target, result = .ok there ∧
      tree.get? there = some (.link target)) (fun here way => ?_) directory path
    refine (tree.advance_entry here way).imp_right ?_
    rintro ⟨there, target, hstop, hget⟩ links
    refine ⟨there, target, ?_, hget⟩
    unfold travel
    rw [hstop]
  rcases hentry with heq | ⟨there, target, hthere, hget⟩
  · rwa [← heq]
  · obtain rfl : place = there := Except.ok.inj (h.symm.trans hthere)
    exact absurd hget (hplace target)

end Entry

end FileTree

end ExprMigration
