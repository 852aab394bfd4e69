import ExprMigration.FileTree.Path

/-!
# File trees

A file tree as a value: the entries of a tree by their locations.  A location is the list of names
that leads from the root to an entry.  The entries are kept in the order of their locations, each
location once, so that two trees are the same value exactly when they hold the same entries.  Every
name is one that a path can write.

Names are texts, and so are paths and the targets of links.  A file may hold bytes that are not UTF-8, but
a tree with a name that is not UTF-8 is outside the model.
-/

namespace ExprMigration

/-- What a file holds: a text, or bytes that are not the UTF-8 form of any text. -/
inductive Content where
  | text (text : Text)
  | bytes (raw : List UInt8)
deriving Repr, DecidableEq

namespace Content

/-- The content with the given bytes. -/
def ofBytes (raw : ByteArray) : Content :=
  match String.fromUTF8? raw with
  | some s => .text s.toList
  | none => .bytes raw.toList

end Content

/-- The names that lead from the root to an entry. -/
abbrev Location := List Text

namespace Location

/-- Whether a text can be the name of an entry: a path can write it as one part, and that part is no
step to the directory itself or to the one above. -/
def isName (name : Text) : Bool :=
  name != [] && name != ['.'] && name != ['.', '.'] && !name.contains '/'

/-- Whether an entry can stand at a location: it is below the root, and its parts are names. -/
def isPlace (location : Location) : Bool := location != [] && location.all isName

end Location

/-- An entry of a tree. -/
inductive Entry where
  | file (content : Content)
  | directory
  /-- A symbolic link, with its target as written. -/
  | link (target : Text)
deriving Repr, DecidableEq

/-- Entries with their locations, in the order of the locations. -/
structure FileTree where
  entries : List (Location × Entry)
  ordered : entries.Pairwise fun a b => a.1 < b.1
  placed : ∀ e ∈ entries, Location.isPlace e.1

namespace FileTree

instance : DecidableEq FileTree := fun a b =>
  decidable_of_iff (a.entries = b.entries) <| by
    cases a; cases b; simp

/-- The tree with an empty root directory. -/
def empty : FileTree := ⟨[], List.Pairwise.nil, by simp⟩

/-- The entry at a location.  The root is a directory. -/
def get? (tree : FileTree) (location : Location) : Option Entry :=
  if location = [] then some .directory
  else (tree.entries.find? fun (place, _) => place == location).map Prod.snd

/-! ## Changing a tree -/

/-- Puts an entry at a location into an ordered list of entries. -/
def putEntry (location : Location) (entry : Entry) :
    List (Location × Entry) → List (Location × Entry)
  | [] => [(location, entry)]
  | (place, present) :: rest =>
    if location < place then (location, entry) :: (place, present) :: rest
    else if place < location then (place, present) :: putEntry location entry rest
    else (location, entry) :: rest

/-- Every entry after `putEntry` is the new one or was there before. -/
theorem mem_putEntry {location : Location} {entry : Entry} {entries : List (Location × Entry)}
    {e : Location × Entry} (h : e ∈ putEntry location entry entries) :
    e = (location, entry) ∨ e ∈ entries := by
  induction entries with
  | nil => simpa [putEntry] using h
  | cons head rest ih =>
    obtain ⟨place, present⟩ := head
    simp only [putEntry] at h
    split at h
    · simpa using h
    · split at h
      · rcases List.mem_cons.1 h with h | h
        · exact .inr (h ▸ List.mem_cons_self)
        · rcases ih h with h | h
          · exact .inl h
          · exact .inr (List.mem_cons_of_mem _ h)
      · rcases List.mem_cons.1 h with h | h
        · exact .inl h
        · exact .inr (List.mem_cons_of_mem _ h)

/-- `putEntry` keeps the order of the locations. -/
theorem pairwise_putEntry (location : Location) (entry : Entry)
    {entries : List (Location × Entry)} (h : entries.Pairwise fun a b => a.1 < b.1) :
    (putEntry location entry entries).Pairwise fun a b => a.1 < b.1 := by
  induction entries with
  | nil => simp [putEntry]
  | cons head rest ih =>
    obtain ⟨place, present⟩ := head
    have ⟨hhead, hrest⟩ := List.pairwise_cons.1 h
    simp only [putEntry]
    split
    · rename_i hlt
      refine List.pairwise_cons.2 ⟨fun e he => ?_, h⟩
      rcases List.mem_cons.1 he with rfl | he
      · exact hlt
      · exact List.lt_trans hlt (hhead e he)
    · split
      · rename_i hlt
        refine List.pairwise_cons.2 ⟨fun e he => ?_, ih hrest⟩
        rcases mem_putEntry he with rfl | he
        · exact hlt
        · exact hhead e he
      · rename_i hnlt hngt
        have heq : place = location := List.le_antisymm hnlt hngt
        subst heq
        exact List.pairwise_cons.2 ⟨hhead, hrest⟩

/-- In the entries after `putEntry`, the location has the new entry and every other location the one
it had. -/
theorem find?_putEntry (location other : Location) (entry : Entry)
    (entries : List (Location × Entry)) :
    ((putEntry location entry entries).find? fun (place, _) => place == other).map Prod.snd =
      if location = other then some entry
      else (entries.find? fun (place, _) => place == other).map Prod.snd := by
  induction entries with
  | nil => by_cases ho : location = other <;> simp [putEntry, ho]
  | cons head rest ih =>
    obtain ⟨place, present⟩ := head
    simp only [putEntry]
    split
    · by_cases ho : location = other <;> simp [ho]
    · split
      · rename_i _ hlt
        by_cases hp : place = other
        · have hne : location ≠ other := fun h => List.lt_irrefl place (h.trans hp.symm ▸ hlt)
          simp [hp, hne]
        · simpa [hp] using ih
      · rename_i hnlt hngt
        have heq : place = location := List.le_antisymm hnlt hngt
        subst heq
        by_cases ho : place = other <;> simp [ho]

/-- `putEntry` at a place keeps every location a place. -/
theorem placed_putEntry {location : Location} {entry : Entry} {entries : List (Location × Entry)}
    (hl : Location.isPlace location) (h : ∀ e ∈ entries, Location.isPlace e.1) :
    ∀ e ∈ putEntry location entry entries, Location.isPlace e.1 := by
  intro e he
  rcases mem_putEntry he with rfl | he
  · exact hl
  · exact h e he

/-- Puts an entry at a location, in place of the present one if there is one.  Nothing can be put
where no entry can stand. -/
def put (tree : FileTree) (location : Location) (entry : Entry) : FileTree :=
  if h : Location.isPlace location then
    ⟨putEntry location entry tree.entries, pairwise_putEntry location entry tree.ordered,
      placed_putEntry h tree.placed⟩
  else tree

/-- After `put`, the location has the new entry and every other location the one it had. -/
theorem get?_put (tree : FileTree) {location : Location} (other : Location) (entry : Entry)
    (h : Location.isPlace location) :
    (tree.put location entry).get? other =
      if location = other then some entry else tree.get? other := by
  have hne : location ≠ [] := by
    rintro rfl
    simp [Location.isPlace] at h
  by_cases ho : other = []
  · subst ho
    simp [get?, hne]
  · simpa [get?, put, h, ho] using find?_putEntry location other entry tree.entries

/-- The tree without the entry at a location and everything below it. -/
def remove (tree : FileTree) (location : Location) : FileTree :=
  ⟨tree.entries.filter fun (place, _) => !location.isPrefixOf place,
    tree.ordered.filter _, fun e he => tree.placed e (List.mem_filter.1 he).1⟩

/-- Puts an entry at a location and makes a directory of every location above it that has no
entry. -/
def putWithParents (tree : FileTree) (location : Location) (entry : Entry) : FileTree :=
  let parents := (List.range location.length).map location.take
  let grown := parents.foldl
    (fun tree place => if (tree.get? place).isNone then tree.put place .directory else tree) tree
  grown.put location entry

end FileTree
end ExprMigration
