import ExprMigration.Proofs.FileTree.Continuation
import ExprMigration.Proofs.FileTree.PathOrder

/-!
# What a walk meets

A walk that meets no fault meets exactly the entries to which names lead through real directories
(`mem_walkBelow`): every directory on the way is opened, and its path leads to it.  It meets them in the
order of their paths (`pairwise_walk`): the order of siblings by name is the order of their components,
and what stands in a directory has its path continued.
-/

namespace ExprMigration

/-! ## Paths with a common beginning -/

namespace Path

variable {as bs cs : List Component} {a b : Text}

theorem componentsLe_append (cs as bs : List Component) :
    componentsLe (cs ++ as) (cs ++ bs) = componentsLe as bs := by
  induction cs with
  | nil => rfl
  | cons c cs ih => simp [componentsLe, Component.lt_irrefl, ih]

/-- Paths that begin alike are compared by the rest. -/
theorem before_iff_of_components (ha : components a = cs ++ as) (hb : components b = cs ++ bs) :
    Before a b ↔ componentsLe as bs ∧ as ≠ bs := by
  rw [Before, le, ha, hb, componentsLe_append, same, ha, hb, beq_iff_eq,
    List.append_cancel_left_eq]

end Path

namespace FileTree

variable {tree : FileTree} {directory place : Location} {path root name : Text} {levels : Nat}
  {visit : Visit}

/-! ## Directories -/

theorem isPrefixOf?_eq_some_iff {a b r : Location} : a.isPrefixOf? b = some r ↔ b = a ++ r := by
  induction a generalizing b with
  | nil =>
    show some b = some r ↔ b = r
    exact Option.some_inj
  | cons x a ih =>
    cases b with
    | nil =>
      show none = some r ↔ [] = x :: a ++ r
      simp
    | cons y b =>
      show (if x == y then a.isPrefixOf? b else none) = some r ↔ y :: b = x :: a ++ r
      by_cases hxy : x = y
      · subst hxy
        simpa using ih
      · simp [hxy, Ne.symm hxy]

theorem listed?_eq_some_iff {there : Location} {entry : Entry} {type : EntryType} :
    listed? place (there, entry) = some (name, type) ↔
      there = place ++ [name] ∧ entry.type = type := by
  rw [← isPrefixOf?_eq_some_iff, listed?]
  rcases place.isPrefixOf? there with _ | _ | ⟨n, _ | _⟩ <;> simp

theorem mem_listing {type : EntryType} : (name, type) ∈ tree.listing place ↔
    ∃ entry, tree.get? (place ++ [name]) = some entry ∧ entry.type = type := by
  rw [listing, List.mem_filterMap]
  constructor
  · rintro ⟨⟨there, entry⟩, hmem, hsome⟩
    obtain ⟨rfl, htype⟩ := listed?_eq_some_iff.1 hsome
    exact ⟨entry, get?_of_mem_entries hmem, htype⟩
  · rintro ⟨entry, hget, htype⟩
    exact ⟨_, mem_entries_of_get? (by simp) hget, listed?_eq_some_iff.2 ⟨rfl, htype⟩⟩

theorem isName_of_mem_listing {type : EntryType} (h : (name, type) ∈ tree.listing place) :
    Location.isName name := by
  obtain ⟨entry, hget, -⟩ := mem_listing.1 h
  exact isName_of_get? (by simp) hget name (by simp)

/-- Siblings are listed by name. -/
theorem pairwise_listing (tree : FileTree) (place : Location) :
    (tree.listing place).Pairwise fun a b => a.1 < b.1 := by
  rw [listing, List.pairwise_filterMap]
  refine tree.ordered.imp ?_
  rintro ⟨there, entry⟩ ⟨there', entry'⟩ hlt ⟨n, type⟩ hn ⟨n', type'⟩ hn'
  obtain ⟨rfl, -⟩ := listed?_eq_some_iff.1 hn
  obtain ⟨rfl, -⟩ := listed?_eq_some_iff.1 hn'
  rcases Std.lt_trichotomy n n' with h | h | h
  · exact h
  · subst h
    exact absurd hlt (List.lt_irrefl _)
  · have hgt : place ++ [n'] < place ++ [n] :=
      List.append_left_lt (List.cons_lt_cons_iff.2 (.inl h))
    exact absurd hlt (List.lt_asymm hgt)

theorem length_le_height {entry : Entry} (hne : place ≠ []) (h : tree.get? place = some entry) :
    place.length ≤ tree.height := by
  have hmem := mem_entries_of_get? hne h
  rw [height]
  revert hmem
  induction tree.entries with
  | nil => simp
  | cons head rest ih =>
    intro hmem
    rw [List.map_cons, List.foldr_cons]
    rcases List.mem_cons.1 hmem with rfl | hmem
    · exact Nat.le_max_left _ _
    · exact Nat.le_trans (ih hmem) (Nat.le_max_right _ _)

/-! ## Below a directory -/

/-- One level of a walk: the entries that stand in a directory, and what is below them. -/
theorem mem_walkBelow_succ {item : Except WalkFault Visit}
    (h : tree.locate .content directory path = .ok place) :
    item ∈ tree.walkBelow directory (levels + 1) path ↔
      ∃ name type, (name, type) ∈ tree.listing place ∧
        (item = .ok ⟨Path.join path name, type⟩ ∨ type = .directory ∧
          item ∈ tree.walkBelow directory levels (Path.join path name)) := by
  rw [walkBelow, h]
  simp only [List.mem_flatMap, List.mem_cons, Prod.exists]
  refine exists₂_congr fun name type => and_congr_right fun _ => or_congr_right ?_
  split <;> simp_all

/-- Everything that a walk meets below a path continues the path by names. -/
theorem exists_names_of_mem_walkBelow (h : .ok visit ∈ tree.walkBelow directory levels path) :
    ∃ names, names ≠ [] ∧ (∀ n ∈ names, Location.isName n) ∧
      visit.path = names.foldl Path.join path := by
  induction levels generalizing path with
  | zero => simp [walkBelow] at h
  | succ levels ih =>
    rcases hlocate : tree.locate .content directory path with fault | place
    · simp [walkBelow, hlocate] at h
    · obtain ⟨name, type, hlisted, hvisit | ⟨-, hbelow⟩⟩ := (mem_walkBelow_succ hlocate).1 h
      · obtain rfl := Except.ok.inj hvisit
        exact ⟨[name], by simp, by simpa using isName_of_mem_listing hlisted, rfl⟩
      · obtain ⟨names, -, hnames, hpath⟩ := ih hbelow
        refine ⟨name :: names, by simp, ?_, hpath⟩
        exact List.forall_mem_cons.2 ⟨isName_of_mem_listing hlisted, hnames⟩

/-- A walk without a fault has opened the directory. -/
theorem exists_locate_of_walkBelow (hlevels : 0 < levels)
    (hclean : ∀ fault, .error fault ∉ tree.walkBelow directory levels path) :
    ∃ place, tree.locate .content directory path = .ok place := by
  obtain ⟨levels, rfl⟩ := Nat.exists_eq_succ_of_ne_zero (Nat.ne_of_gt hlevels)
  rcases hlocate : tree.locate .content directory path with fault | place
  · exact absurd (by simp [walkBelow, hlocate]) (hclean ⟨path, fault⟩)
  · exact ⟨place, rfl⟩

/-- A directory that stands in another one is opened where it stands. -/
theorem locate_join_of_walkBelow (hlocate : tree.locate .content directory path = .ok place)
    (hplace : tree.get? place = some .directory) (hlevels : tree.height < place.length + (levels + 1))
    (hclean : ∀ fault, .error fault ∉ tree.walkBelow directory (levels + 1) path)
    (h : tree.get? (place ++ [name]) = some .directory) :
    tree.locate .content directory (Path.join path name) = .ok (place ++ [name]) ∧
      ∀ fault, .error fault ∉ tree.walkBelow directory levels (Path.join path name) := by
  have hcleanBelow : ∀ fault,
      .error fault ∉ tree.walkBelow directory levels (Path.join path name) := fun fault hfault =>
    hclean fault ((mem_walkBelow_succ hlocate).2
      ⟨name, .directory, mem_listing.2 ⟨_, h, rfl⟩, .inr ⟨rfl, hfault⟩⟩)
  have hheight := length_le_height (by simp) h
  rw [List.length_append, List.length_singleton] at hheight
  obtain ⟨there, hthere⟩ := exists_locate_of_walkBelow (by omega) hcleanBelow
  have heq : there = place ++ [name] := locate_continued hlocate hplace (Leads.last h) (by simp) hthere
  exact ⟨heq ▸ hthere, hcleanBelow⟩

/-- Below a directory, a walk that meets no fault meets the entries to which names lead from there. -/
theorem mem_walkBelow (hlocate : tree.locate .content directory path = .ok place)
    (hplace : tree.get? place = some .directory) (hlevels : tree.height < place.length + levels)
    (hclean : ∀ fault, .error fault ∉ tree.walkBelow directory levels path) :
    .ok visit ∈ tree.walkBelow directory levels path ↔ ∃ entry names,
      tree.Leads entry place names ∧ visit = ⟨names.foldl Path.join path, entry.type⟩ := by
  induction levels generalizing path place with
  | zero =>
    -- no location is as long as one below this directory would be
    refine ⟨fun h => by simp [walkBelow] at h, ?_⟩
    rintro ⟨entry, names, hleads, -⟩
    have hheight := length_le_height (List.append_ne_nil_of_right_ne_nil _ hleads.ne_nil) hleads.get?
    rw [List.length_append] at hheight
    omega
  | succ levels ih =>
    have hinner {name : Text} (h : tree.get? (place ++ [name]) = some .directory) :
        .ok visit ∈ tree.walkBelow directory levels (Path.join path name) ↔ ∃ entry names,
          tree.Leads entry (place ++ [name]) names ∧
            visit = ⟨names.foldl Path.join (Path.join path name), entry.type⟩ := by
      obtain ⟨hthere, hcleanBelow⟩ := locate_join_of_walkBelow hlocate hplace hlevels hclean h
      refine ih hthere h ?_ hcleanBelow
      rw [List.length_append, List.length_singleton]
      omega
    rw [mem_walkBelow_succ hlocate]
    constructor
    · rintro ⟨name, type, hlisted, hvisit | ⟨rfl, hbelow⟩⟩
      · obtain ⟨entry, hget, rfl⟩ := mem_listing.1 hlisted
        exact ⟨entry, [name], .last hget, Except.ok.inj hvisit⟩
      · obtain ⟨entry, hget, htype⟩ := mem_listing.1 hlisted
        cases entry with
        | file content => simp [Entry.type] at htype
        | link target => simp [Entry.type] at htype
        | directory =>
          obtain ⟨entry, names, hleads, hvisit⟩ := (hinner hget).1 hbelow
          exact ⟨entry, name :: names, .down hget hleads, hvisit⟩
    · rintro ⟨entry, names, hleads, rfl⟩
      cases hleads with
      | last hget => exact ⟨_, entry.type, mem_listing.2 ⟨entry, hget, rfl⟩, .inl rfl⟩
      | down hget hrest =>
        exact ⟨_, .directory, mem_listing.2 ⟨_, hget, rfl⟩,
          .inr ⟨rfl, (hinner hget).2 ⟨entry, _, hrest, rfl⟩⟩⟩

/-! ## The order of a walk -/

/-- Of two things that a walk meets, the first has its path before the second. -/
def MetBefore (a b : Except WalkFault Visit) : Prop :=
  ∀ v w, a = .ok v → b = .ok w → Path.Before v.path w.path

theorem components_of_mem_walkBelow (hpath : path ≠ [])
    (h : .ok visit ∈ tree.walkBelow directory levels path) :
    ∃ names, names ≠ [] ∧
      Path.components visit.path = Path.components path ++ names.map Component.name := by
  obtain ⟨names, hne, hnames, heq⟩ := exists_names_of_mem_walkBelow h
  exact ⟨names, hne, heq ▸ components_continued hpath hnames⟩

/-- A path comes before what is below it. -/
theorem before_of_mem_walkBelow (hpath : path ≠ [])
    (h : .ok visit ∈ tree.walkBelow directory levels path) : Path.Before path visit.path := by
  obtain ⟨names, hne, hcomponents⟩ := components_of_mem_walkBelow hpath h
  rw [Path.before_iff_of_components (List.append_nil _).symm hcomponents]
  exact ⟨rfl, by simpa using hne.symm⟩

/-- What a walk meets at a name and below it has the path continued by that name. -/
theorem components_of_met (hpath : path ≠ []) (hname : Location.isName name)
    (h : visit.path = Path.join path name ∨
      .ok visit ∈ tree.walkBelow directory levels (Path.join path name)) :
    ∃ more, Path.components visit.path = Path.components path ++ .name name :: more := by
  have hjoin := Path.components_join hpath hname
  rcases h with h | h
  · exact ⟨[], h ▸ hjoin⟩
  · obtain ⟨names, -, hcomponents⟩ := components_of_mem_walkBelow (Path.join_ne_nil hpath hname) h
    exact ⟨names.map Component.name, by simp [hcomponents, hjoin]⟩

/-- Paths that continue one path by different names stand in the order of the names. -/
theorem before_of_name_lt {name' : Text} {a b : Text} {more more' : List Component}
    (ha : Path.components a = Path.components path ++ .name name :: more)
    (hb : Path.components b = Path.components path ++ .name name' :: more') (h : name < name') :
    Path.Before a b := by
  rw [Path.before_iff_of_components ha hb, Path.componentsLe_cons]
  refine ⟨.inl (by simpa [Component.lt] using h), fun heq => ?_⟩
  obtain ⟨rfl, -⟩ : name = name' ∧ more = more' := by simpa using heq
  exact List.lt_irrefl _ h

/-- A walk below a path meets everything in the order of the paths. -/
theorem pairwise_walkBelow (hpath : path ≠ []) :
    (tree.walkBelow directory levels path).Pairwise MetBefore := by
  induction levels generalizing path with
  | zero => exact List.Pairwise.nil
  | succ levels ih =>
    rw [walkBelow]
    rcases tree.locate .content directory path with fault | place
    · exact List.pairwise_singleton _ _
    rw [List.pairwise_flatMap]
    constructor
    · rintro ⟨name, type⟩ hlisted
      have hne := Path.join_ne_nil hpath (isName_of_mem_listing hlisted)
      refine List.pairwise_cons.2 ⟨?_, ?_⟩
      · rintro item hitem v w hv rfl
        obtain rfl := Except.ok.inj hv
        exact before_of_mem_walkBelow hne (List.mem_ite_nil_right.1 hitem).2
      · split
        · exact ih hne
        · exact List.Pairwise.nil
    · refine (tree.pairwise_listing place).imp_of_mem ?_
      rintro ⟨name, type⟩ ⟨name', type'⟩ hlisted hlisted' hlt _ hv _ hw v w rfl rfl
      simp only [List.mem_cons, Except.ok.injEq, List.mem_ite_nil_right] at hv hw
      obtain ⟨more, hmore⟩ := components_of_met hpath (isName_of_mem_listing hlisted)
        (hv.imp (congrArg Visit.path) And.right)
      obtain ⟨more', hmore'⟩ := components_of_met hpath (isName_of_mem_listing hlisted')
        (hw.imp (congrArg Visit.path) And.right)
      exact before_of_name_lt hmore hmore' hlt

/-! ## The start of a walk -/

/-- The ways a walk starts, with what it meets. -/
inductive WalkStart (tree : FileTree) (directory : Location) (root : Text) :
    List (Except WalkFault Visit) → Prop where
  | fault (fault : Fault) : WalkStart tree directory root [.error ⟨root, fault⟩]
  | file {place : Location} {content : Content}
      (hentry : tree.locate .entry directory root = .ok place)
      (hget : tree.get? place = some (.file content)) :
      WalkStart tree directory root [.ok ⟨root, .file⟩]
  /-- At a directory, or at a link that leads to one. -/
  | directory {there place : Location} {entry : Entry}
      (hentry : tree.locate .entry directory root = .ok there) (hthere : tree.get? there = some entry)
      (htype : entry.type ≠ .file) (hcontent : tree.locate .content directory root = .ok place)
      (hget : tree.get? place = some .directory) :
      WalkStart tree directory root
        (.ok ⟨root, entry.type⟩ :: tree.walkBelow directory (tree.height + 1) root)
  /-- At a link that does not lead to a directory. -/
  | link {there place : Location} {target : Text}
      (hentry : tree.locate .entry directory root = .ok there)
      (hthere : tree.get? there = some (.link target))
      (hcontent : tree.locate .content directory root = .ok place)
      (hget : tree.get? place ≠ some .directory) :
      WalkStart tree directory root [.ok ⟨root, .link⟩]

theorem walkStart_walk (tree : FileTree) (directory : Location) (root : Text) :
    WalkStart tree directory root (tree.walk directory root) := by
  rcases hentry : tree.locate .entry directory root with fault | there
  · simpa [walk, hentry] using WalkStart.fault fault
  rcases hthere : tree.get? there with _ | (content | _ | target)
  · simpa [walk, hentry, hthere] using WalkStart.fault .notFound
  · simpa [walk, hentry, hthere] using WalkStart.file hentry hthere
  · have hcontent := locate_entry hentry (by simp [hthere])
    simpa [walk, hentry, hthere, Entry.type] using
      WalkStart.directory hentry hthere (by simp [Entry.type]) hcontent hthere
  rcases hcontent : tree.locate .content directory root with fault | place
  · simpa [walk, hentry, hthere, hcontent] using WalkStart.fault fault
  rcases hget : tree.get? place with _ | (content | _ | further)
  · simpa [walk, hentry, hthere, hcontent, hget] using WalkStart.fault .notFound
  · simpa [walk, hentry, hthere, hcontent, hget] using
      WalkStart.link hentry hthere hcontent (by simp [hget])
  · simpa [walk, hentry, hthere, hcontent, hget, Entry.type] using
      WalkStart.directory hentry hthere (by simp [Entry.type]) hcontent hget
  · simpa [walk, hentry, hthere, hcontent, hget] using
      WalkStart.link hentry hthere hcontent (by simp [hget])

/-- The names by which a regular file is reached from a root: none if the root is itself the file, and
otherwise those that lead to it through real directories.  Only the root may be a link to a
directory. -/
inductive Reaches (tree : FileTree) (directory : Location) (root : Text) : List Text → Prop where
  | root {place : Location} {content : Content}
      (hentry : tree.locate .entry directory root = .ok place)
      (hget : tree.get? place = some (.file content)) : Reaches tree directory root []
  | below {place : Location} {names : List Text} {content : Content}
      (hcontent : tree.locate .content directory root = .ok place)
      (hget : tree.get? place = some .directory)
      (hleads : tree.Leads (.file content) place names) : Reaches tree directory root names

theorem Reaches.isName {names : List Text} (h : tree.Reaches directory root names) :
    ∀ n ∈ names, Location.isName n := by
  cases h with
  | root => simp
  | below _ _ hleads => exact hleads.isName

theorem Reaches.ne_nil {names : List Text} (h : tree.Reaches directory root names) : root ≠ [] := by
  cases h with
  | root hentry => exact ne_nil_of_locate hentry
  | below hcontent => exact ne_nil_of_locate hcontent

/-- A root that is itself a file leads to no directory. -/
theorem get?_ne_directory_of_entry {there : Location} {content : Content}
    (hentry : tree.locate .entry directory root = .ok place)
    (hget : tree.get? place = some (.file content))
    (hcontent : tree.locate .content directory root = .ok there) :
    tree.get? there ≠ some .directory := by
  obtain rfl := Except.ok.inj (hcontent.symm.trans (locate_entry hentry (by simp [hget])))
  simp [hget]

/-- From a root that is a file, only that file is reached. -/
theorem reaches_iff_of_file {names : List Text} {content : Content}
    (hentry : tree.locate .entry directory root = .ok place)
    (hget : tree.get? place = some (.file content)) :
    tree.Reaches directory root names ↔ names = [] := by
  constructor
  · intro h
    cases h with
    | root => rfl
    | below hcontent hdirectory =>
      exact absurd hdirectory (get?_ne_directory_of_entry hentry hget hcontent)
  · rintro rfl
    exact .root hentry hget

/-- From any other root, files are reached through the directory to which it leads. -/
theorem reaches_iff_leads {names : List Text} {there : Location} {entry : Entry}
    (hentry : tree.locate .entry directory root = .ok there) (hthere : tree.get? there = some entry)
    (htype : entry.type ≠ .file) (hcontent : tree.locate .content directory root = .ok place) :
    tree.Reaches directory root names ↔
      tree.get? place = some .directory ∧ ∃ content, tree.Leads (.file content) place names := by
  constructor
  · intro h
    cases h with
    | root hentry' hfile =>
      obtain rfl := Except.ok.inj (hentry.symm.trans hentry')
      obtain rfl := Option.some.inj (hthere.symm.trans hfile)
      exact absurd rfl htype
    | below hcontent' hget hleads =>
      obtain rfl := Except.ok.inj (hcontent.symm.trans hcontent')
      exact ⟨hget, _, hleads⟩
  · rintro ⟨hget, content, hleads⟩
    exact .below hcontent hget hleads

/-- A walk that meets no fault meets exactly the files that are reached from its root. -/
theorem file_mem_walk_iff (hclean : ∀ fault, .error fault ∉ tree.walk directory root) :
    .ok ⟨path, .file⟩ ∈ tree.walk directory root ↔
      ∃ names, tree.Reaches directory root names ∧ path = names.foldl Path.join root := by
  have hstart := walkStart_walk tree directory root
  generalize tree.walk directory root = items at hclean hstart
  cases hstart with
  | fault fault => exact absurd List.mem_cons_self (hclean _)
  | file hentry hget => simp [reaches_iff_of_file hentry hget]
  | @directory there place entry hentry hthere htype hcontent hget =>
    have hmem (visit : Visit) : .ok visit ∈ tree.walkBelow directory (tree.height + 1) root ↔ _ :=
      mem_walkBelow hcontent hget (by omega) fun fault hfault =>
        hclean fault (List.mem_cons_of_mem _ hfault)
    have hroot : Except.ok ⟨path, .file⟩ ≠ (.ok ⟨root, entry.type⟩ : Except WalkFault Visit) := by
      intro heq
      simp only [Except.ok.injEq, Visit.mk.injEq] at heq
      exact htype heq.2.symm
    simp only [List.mem_cons, or_iff_right hroot, hmem, Visit.mk.injEq,
      reaches_iff_leads hentry hthere htype hcontent, hget, true_and]
    constructor
    · rintro ⟨inner, names, hleads, hpath, hfile⟩
      cases inner with
      | file content => exact ⟨names, ⟨content, hleads⟩, hpath⟩
      | directory => simp [Entry.type] at hfile
      | link target => simp [Entry.type] at hfile
    · rintro ⟨names, ⟨content, hleads⟩, hpath⟩
      exact ⟨.file content, names, hleads, hpath, rfl⟩
  | link hentry hthere hcontent hget =>
    simp [reaches_iff_leads hentry hthere (by simp [Entry.type]) hcontent, hget]

/-- A walk meets everything in the order of the paths. -/
theorem pairwise_walk (tree : FileTree) (directory : Location) (root : Text) :
    (tree.walk directory root).Pairwise MetBefore := by
  have hstart := walkStart_walk tree directory root
  generalize tree.walk directory root = items at hstart
  cases hstart with
  | fault fault => exact List.pairwise_singleton _ _
  | file => exact List.pairwise_singleton _ _
  | link => exact List.pairwise_singleton _ _
  | directory hentry =>
    have hroot := ne_nil_of_locate hentry
    refine List.pairwise_cons.2 ⟨?_, pairwise_walkBelow hroot⟩
    rintro item hitem v w hv rfl
    obtain rfl := Except.ok.inj hv
    exact before_of_mem_walkBelow hroot hitem

/-- The paths to two files that are reached from a root lead to different files, if they are reached by
different names. -/
theorem Reaches.injective {names names' : List Text} {target : Location}
    (h : tree.Reaches directory root names) (h' : tree.Reaches directory root names')
    (hlocate : tree.locate .content directory (names.foldl Path.join root) = .ok target)
    (hlocate' : tree.locate .content directory (names'.foldl Path.join root) = .ok target) :
    names = names' := by
  cases h with
  | root hentry hget =>
    cases h' with
    | root => rfl
    | below hcontent hdirectory => exact absurd hdirectory (get?_ne_directory_of_entry hentry hget hcontent)
  | below hcontent hdirectory hleads =>
    cases h' with
    | root hentry hget => exact absurd hdirectory (get?_ne_directory_of_entry hentry hget hcontent)
    | below hcontent' hdirectory' hleads' =>
      obtain rfl := Except.ok.inj (hcontent.symm.trans hcontent')
      have htarget := locate_continued hcontent hdirectory hleads (by simp) hlocate
      have htarget' := locate_continued hcontent hdirectory hleads' (by simp) hlocate'
      exact List.append_cancel_left (htarget.symm.trans htarget')

end FileTree
end ExprMigration
