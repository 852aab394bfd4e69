import ExprMigration.FileTree.Walk

/-!
# The shape of a tree

The shape of a tree is all of it but what its files hold.  Paths and walks depend on the shape only
(`locate_of_shape`, `walk_of_shape`), and writing a file that was there keeps the shape
(`shape_put`).  A path that can be read and written leads to one location for both
(`write_of_read`).
-/

namespace ExprMigration

/-- An entry without what a file holds. -/
def Entry.kind : Entry → Entry
  | .file _ => .file (.bytes [])
  | .directory => .directory
  | .link target => .link target

namespace FileTree

/-- The locations of a tree with the kinds of their entries. -/
def shape (tree : FileTree) : List (Location × Entry) :=
  tree.entries.map fun (place, entry) => (place, entry.kind)

/-! ## Entries -/

section Entries

variable {tree : FileTree} {location : Location} {entry : Entry}

theorem mem_entries_of_get? (hne : location ≠ []) (h : tree.get? location = some entry) :
    (location, entry) ∈ tree.entries := by
  rw [get?, if_neg hne, Option.map_eq_some_iff] at h
  obtain ⟨⟨place, present⟩, hfind, rfl⟩ := h
  obtain rfl : place = location := by simpa using List.find?_some hfind
  exact List.mem_of_find?_eq_some hfind

theorem ne_nil_of_get?_file {content : Content} (h : tree.get? location = some (.file content)) :
    location ≠ [] := by
  rintro rfl
  simp [get?] at h

/-- A file stands where an entry can stand. -/
theorem isPlace_of_get?_file {content : Content} (h : tree.get? location = some (.file content)) :
    Location.isPlace location :=
  tree.placed _ (mem_entries_of_get? (ne_nil_of_get?_file h) h)

theorem get?_of_mem_entries (h : (location, entry) ∈ tree.entries) :
    tree.get? location = some entry := by
  have hne : location ≠ [] := by
    rintro rfl
    simpa [Location.isPlace] using tree.placed _ h
  have hordered := tree.ordered
  rw [get?, if_neg hne]
  -- in ordered entries, none in front of the wanted one has its location
  revert h hordered
  induction tree.entries with
  | nil => simp
  | cons head rest ih =>
    obtain ⟨place, present⟩ := head
    intro h hordered
    obtain ⟨hhead, hrest⟩ := List.pairwise_cons.1 hordered
    rcases List.mem_cons.1 h with h | h
    · cases h
      simp
    · have hlt : place < location := hhead _ h
      have hplace : (place == location) = false := by
        rw [beq_eq_false_iff_ne]
        rintro rfl
        exact List.lt_irrefl place hlt
      rw [List.find?_cons_of_neg (by simp [hplace])]
      exact ih h hrest

end Entries

/-! ## Putting an entry where one is -/

/-- Putting an entry where there is one replaces it in its place. -/
theorem putEntry_of_mem {location : Location} {present : Entry} (entry : Entry)
    {entries : List (Location × Entry)} (hordered : entries.Pairwise fun a b => a.1 < b.1)
    (h : (location, present) ∈ entries) :
    putEntry location entry entries =
      entries.map fun e => if e.1 = location then (location, entry) else e := by
  induction entries with
  | nil => simp at h
  | cons head rest ih =>
    obtain ⟨place, old⟩ := head
    obtain ⟨hhead, hrest⟩ := List.pairwise_cons.1 hordered
    rcases List.mem_cons.1 h with h | h
    · cases h
      -- behind the entry every location is greater
      have hmap : rest.map (fun e => if e.1 = location then (location, entry) else e) = rest := by
        refine (List.map_congr_left fun e he => ?_).trans (List.map_id rest)
        have hlt : location < e.1 := hhead e he
        have hne : e.1 ≠ location := by
          intro heq
          rw [heq] at hlt
          exact List.lt_irrefl location hlt
        rw [if_neg hne]
        rfl
      rw [putEntry, if_neg (List.lt_irrefl location), if_neg (List.lt_irrefl location),
        List.map_cons, if_pos rfl, hmap]
    · have hlt : place < location := hhead _ h
      have hngt : ¬ location < place := List.lt_asymm hlt
      have hne : place ≠ location := by
        rintro rfl
        exact List.lt_irrefl place hlt
      simp [putEntry, hlt, hngt, hne, ih hrest h]

variable {tree : FileTree} {location : Location}

theorem entries_put {present : Entry} (entry : Entry) (hne : location ≠ [])
    (h : tree.get? location = some present) :
    (tree.put location entry).entries =
      tree.entries.map fun e => if e.1 = location then (location, entry) else e := by
  have hmem := mem_entries_of_get? hne h
  have hplace : Location.isPlace location := tree.placed _ hmem
  rw [put, dif_pos hplace]
  exact putEntry_of_mem entry tree.ordered hmem

/-- Putting back what is there changes nothing. -/
theorem put_self {entry : Entry} (hne : location ≠ []) (h : tree.get? location = some entry) :
    tree.put location entry = tree := by
  have hentries : (tree.put location entry).entries = tree.entries := by
    rw [entries_put entry hne h]
    refine (List.map_congr_left ?_).trans (List.map_id _)
    rintro ⟨place, present⟩ he
    by_cases hplace : place = location
    · subst hplace
      have hsame := (get?_of_mem_entries he).symm.trans h
      simp at hsame
      simp [hsame]
    · simp [hplace]
  -- trees with the same entries are the same
  revert hentries
  generalize tree.put location entry = other
  intro hentries
  cases other
  cases tree
  simpa using hentries

/-- Writing a file that is there keeps the shape. -/
theorem shape_put {content : Content} (new : Content)
    (h : tree.get? location = some (.file content)) :
    (tree.put location (.file new)).shape = tree.shape := by
  rw [shape, entries_put _ (ne_nil_of_get?_file h) h, List.map_map, shape]
  refine List.map_congr_left ?_
  rintro ⟨place, present⟩ he
  by_cases hplace : place = location
  · subst hplace
    have hsame := (get?_of_mem_entries he).symm.trans h
    simp at hsame
    simp [hsame, Entry.kind]
  · simp [hplace]

/-! ## What depends on the shape -/

section SameShape

variable {a b : FileTree}

theorem get?_map_kind (tree : FileTree) (location : Location) :
    (tree.get? location).map Entry.kind = if location = [] then some .directory
      else (tree.shape.find? fun (place, _) => place == location).map Prod.snd := by
  by_cases hne : location = []
  · simp [get?, hne, Entry.kind]
  · rw [get?, if_neg hne, if_neg hne, shape, List.find?_map, Option.map_map, Option.map_map]
    rfl

theorem kind_of_shape (h : a.shape = b.shape) (location : Location) :
    (a.get? location).map Entry.kind = (b.get? location).map Entry.kind := by
  rw [get?_map_kind, get?_map_kind, h]

theorem get?_directory_of_shape (h : a.shape = b.shape) (location : Location) :
    a.get? location = some .directory ↔ b.get? location = some .directory := by
  have hkind := kind_of_shape h location
  rcases ha : a.get? location with _ | (_ | _ | _) <;>
    rcases hb : b.get? location with _ | (_ | _ | _) <;>
    simp [ha, hb, Entry.kind] at hkind ⊢

theorem advance_of_shape (h : a.shape = b.shape) (purpose : Purpose) (here : Location)
    (way : List Step) : a.advance purpose here way = b.advance purpose here way := by
  induction way generalizing here with
  | nil => rfl
  | cons step rest ih =>
    cases step with
    | stay => exact ih here
    | slash => exact ih here
    | up => exact ih here.dropLast
    | down name =>
      have hkind := kind_of_shape h (here ++ [name])
      simp only [advance]
      rcases ha : a.get? (here ++ [name]) with _ | (_ | _ | _) <;>
        rcases hb : b.get? (here ++ [name]) with _ | (_ | _ | _) <;>
        simp [ha, hb, Entry.kind] at hkind ⊢
      · rw [ih]
      · subst hkind
        rfl

theorem travel_of_shape (h : a.shape = b.shape) (purpose : Purpose) (links : Nat) (here : Location)
    (way : List Step) : a.travel purpose links here way = b.travel purpose links here way := by
  induction links generalizing here way with
  | zero =>
    unfold travel
    rw [advance_of_shape h]
    cases b.advance purpose here way <;> rfl
  | succ links ih =>
    unfold travel
    rw [advance_of_shape h]
    rcases b.advance purpose here way with _ | ⟨place, target, rest⟩ | _
    · rfl
    · exact ih _ _
    · rfl

/-- Trees of one shape have every path lead to the same place. -/
theorem locate_of_shape (h : a.shape = b.shape) (purpose : Purpose) (directory : Location)
    (path : Text) : a.locate purpose directory path = b.locate purpose directory path := by
  simp only [locate, travel_of_shape h]

theorem listing_of_shape (h : a.shape = b.shape) (place : Location) :
    a.listing place = b.listing place := by
  have hshape (tree : FileTree) :
      tree.listing place = tree.shape.filterMap (listed? place) := by
    rw [listing, shape, List.filterMap_map]
    congr 1
    funext ⟨there, entry⟩
    cases entry <;> rfl
  rw [hshape, hshape, h]

theorem height_of_shape (h : a.shape = b.shape) : a.height = b.height := by
  have hshape (tree : FileTree) :
      tree.height = (tree.shape.map fun e => e.1.length).foldr max 0 := by
    rw [height, shape, List.map_map]
    rfl
  rw [hshape, hshape, h]

theorem walkBelow_of_shape (h : a.shape = b.shape) (directory : Location) (levels : Nat)
    (path : Text) : a.walkBelow directory levels path = b.walkBelow directory levels path := by
  induction levels generalizing path with
  | zero => rfl
  | succ levels ih => simp only [walkBelow, locate_of_shape h, listing_of_shape h, ih]

/-- Walks over trees of one shape meet the same. -/
theorem walk_of_shape (h : a.shape = b.shape) (directory : Location) (root : Text) :
    a.walk directory root = b.walk directory root := by
  simp only [walk, locate_of_shape h, walkBelow_of_shape h, height_of_shape h]
  rcases b.locate .entry directory root with _ | place
  · rfl
  have hkind := kind_of_shape h place
  simp only
  rcases ha : a.get? place with _ | (_ | _ | _) <;>
    rcases hb : b.get? place with _ | (_ | _ | _) <;>
    simp [ha, hb, Entry.kind] at hkind ⊢
  -- the walk starts at a link
  rcases b.locate .content directory root with _ | place
  · rfl
  have hkind := kind_of_shape h place
  simp only
  rcases ha : a.get? place with _ | (_ | _ | _) <;>
    rcases hb : b.get? place with _ | (_ | _ | _) <;>
    simp [ha, hb, Entry.kind] at hkind ⊢

end SameShape

/-! ## Reading and writing -/

section Writing

variable {directory : Location} {path : Text}

/-- If the ways for a purpose end where the ways for reading end, or with a result of its own, so do
the ways through links. -/
theorem travel_or {tree : FileTree} {purpose : Purpose} {p : Except Fault Location → Prop}
    (h : ∀ here way, tree.advance purpose here way = tree.advance .content here way ∨
      ∀ links, p (tree.travel purpose links here way))
    (links : Nat) (here : Location) (way : List Step) :
    tree.travel purpose links here way = tree.travel .content links here way ∨
      p (tree.travel purpose links here way) := by
  induction links generalizing here way with
  | zero =>
    rcases h here way with heq | hown
    · left
      unfold travel
      rw [heq]
      cases tree.advance .content here way <;> rfl
    · exact .inr (hown 0)
  | succ links ih =>
    rcases h here way with heq | hown
    · unfold travel
      rw [heq]
      cases tree.advance .content here way with
      | «at» place => exact .inl rfl
      | fault fault => exact .inl rfl
      | link place target rest => exact ih _ _
    · exact .inr (hown (links + 1))

theorem locate_or {tree : FileTree} {purpose : Purpose} {p : Except Fault Location → Prop}
    (h : ∀ here way, tree.advance purpose here way = tree.advance .content here way ∨
      ∀ links, p (tree.travel purpose links here way)) (directory : Location) (path : Text) :
    tree.locate purpose directory path = tree.locate .content directory path ∨
      p (tree.locate purpose directory path) := by
  simp only [locate]
  split
  · exact .inl rfl
  · split
    · exact .inl rfl
    · split
      · exact .inl rfl
      · exact travel_or h ..

/-- A way for writing a file leads where the way for reading it leads, or is refused. -/
theorem advance_creation (tree : FileTree) (here : Location) (way : List Step) :
    tree.advance .creation here way = tree.advance .content here way ∨
      tree.advance .creation here way = .fault .isDirectory := by
  induction way generalizing here with
  | nil => exact .inl rfl
  | cons step rest ih =>
    cases step with
    | stay => exact ih here
    | slash => exact ih here
    | up => exact ih here.dropLast
    | down name =>
      simp only [advance]
      split
      · exact .inl rfl
      · split
        · exact .inr rfl
        · rcases tree.get? (here ++ [name]) with _ | (_ | _ | _) <;> simp [ih]

theorem locate_creation (tree : FileTree) (directory : Location) (path : Text) :
    tree.locate .creation directory path = tree.locate .content directory path ∨
      tree.locate .creation directory path = .error .isDirectory := by
  refine locate_or (p := (· = .error .isDirectory)) (fun here way => ?_) directory path
  refine (tree.advance_creation here way).imp_right fun h links => ?_
  unfold travel
  rw [h]

variable {tree : FileTree} {location : Location}

/-- Where a file can be made is where it is read. -/
theorem locate_content_of_creation (h : tree.locate .creation directory path = .ok location) :
    tree.locate .content directory path = .ok location := by
  rcases tree.locate_creation directory path with heq | heq
  · exact heq.symm.trans h
  · simp [h] at heq

/-- A path can be read if it leads to a file with a text. -/
theorem read_eq_ok_iff {t : Text} : tree.read directory path = .ok t ↔
    ∃ location, tree.locate .content directory path = .ok location ∧
      tree.get? location = some (.file (.text t)) := by
  rcases hlocate : tree.locate .content directory path with fault | location
  · simp [read, hlocate, Except.bind]
  · rcases hget : tree.get? location with _ | ((_ | _) | _ | _) <;>
      simp [read, hlocate, Except.bind, readAt, hget]

/-- Writing over a path that can be read puts the content where the text was read. -/
theorem write_of_read {before : Text} {content : Content} {written : FileTree}
    (hread : tree.read directory path = .ok before)
    (hwrite : tree.write directory path content = .ok written) :
    ∃ location, tree.locate .content directory path = .ok location ∧
      tree.get? location = some (.file (.text before)) ∧
      written = tree.put location (.file content) := by
  obtain ⟨location, hlocate, hget⟩ := read_eq_ok_iff.1 hread
  have hcreation : tree.locate .creation directory path = .ok location := by
    rcases tree.locate_creation directory path with h | h
    · rw [h, hlocate]
    · simp [write, h] at hwrite
  refine ⟨location, hlocate, hget, ?_⟩
  simpa [write, hcreation, hget] using hwrite.symm

/-- What can be written in a tree can be written in every tree of its shape. -/
theorem write_of_shape {other : FileTree} {content new : Content} {written : FileTree}
    (h : tree.shape = other.shape) (hwrite : tree.write directory path content = .ok written) :
    ∃ written', other.write directory path new = .ok written' := by
  simp only [write, locate_of_shape h] at hwrite ⊢
  rcases hlocate : other.locate .creation directory path with _ | location
  · simp [hlocate] at hwrite
  · have hdirectory := get?_directory_of_shape h location
    rw [hlocate] at hwrite
    by_cases hother : other.get? location = some .directory
    · simp [hdirectory.2 hother] at hwrite
    · simp

/-- A file can be written over. -/
def Writable (tree : FileTree) (directory : Location) (path : Text) : Prop :=
  ∃ written, tree.write directory path (.text []) = .ok written

/-- After a file is written over, the paths to it read the new text. -/
theorem read_put_self {content : Content} (new : Text)
    (h : tree.get? location = some (.file content))
    (hlocate : tree.locate .content directory path = .ok location) :
    (tree.put location (.file (.text new))).read directory path = .ok new := by
  refine read_eq_ok_iff.2 ⟨location, ?_, ?_⟩
  · rwa [locate_of_shape (shape_put _ h)]
  · rw [get?_put tree location _ (isPlace_of_get?_file h), if_pos rfl]

/-- After a file is written over, the paths elsewhere read what they read. -/
theorem read_put_of_ne {content new : Content} (h : tree.get? location = some (.file content))
    (hlocate : tree.locate .content directory path ≠ .ok location) :
    (tree.put location (.file new)).read directory path = tree.read directory path := by
  simp only [read, locate_of_shape (shape_put _ h)]
  rcases hplace : tree.locate .content directory path with _ | place
  · rfl
  · have hne : location ≠ place := by
      rintro rfl
      exact hlocate hplace
    simp [Except.bind, readAt, get?_put tree place _ (isPlace_of_get?_file h), hne]

/-- Writing a text leaves every path readable that was. -/
theorem exists_read_put {content : Content} {t : Text} (new : Text)
    (h : tree.get? location = some (.file content)) (hread : tree.read directory path = .ok t) :
    ∃ t', (tree.put location (.file (.text new))).read directory path = .ok t' := by
  obtain ⟨place, hlocate, _⟩ := read_eq_ok_iff.1 hread
  by_cases hplace : place = location
  · exact ⟨new, read_put_self new h (hplace ▸ hlocate)⟩
  · refine ⟨t, (read_put_of_ne h ?_).trans hread⟩
    rw [hlocate]
    exact fun heq => hplace (Except.ok.inj heq)

end Writing

end FileTree
end ExprMigration
