import ExprMigration.FileTree.Access

/-!
# Walking a tree

A walk meets everything at and below a path: a directory first and then what stands in it, in the order
of the names.  Every directory is opened by its path, and in the place of what stands in one that cannot
be opened there is a fault.  A link is followed only as the start of a walk.
-/

namespace ExprMigration

/-- The types of entries. -/
inductive EntryType where
  | file
  | directory
  | link
deriving Repr, DecidableEq

/-- The type of an entry. -/
def Entry.type : Entry → EntryType
  | .file _ => .file
  | .directory => .directory
  | .link _ => .link

/-- An entry that a walk meets, by its path. -/
structure Visit where
  path : Text
  type : EntryType
deriving Repr, DecidableEq

/-- A path at which a walk cannot go on. -/
structure WalkFault where
  path : Text
  fault : Fault
deriving Repr, DecidableEq

namespace FileTree

/-- The name and the type of an entry, if it stands in the directory at a location. -/
def listed? (place : Location) (e : Location × Entry) : Option (Text × EntryType) :=
  match place.isPrefixOf? e.1 with
  | some [name] => some (name, e.2.type)
  | _ => none

/-- The names and the types of the entries that stand in a directory, in the order of the names. -/
def listing (tree : FileTree) (place : Location) : List (Text × EntryType) :=
  tree.entries.filterMap (listed? place)

/-- The number of names in the longest location. -/
def height (tree : FileTree) : Nat := (tree.entries.map fun e => e.1.length).foldr max 0

/-- What a walk meets below the directory to which a path leads, down to the given number of
levels. -/
def walkBelow (tree : FileTree) (directory : Location) : Nat → Text → List (Except WalkFault Visit)
  | 0, _ => []
  | levels + 1, path =>
    match tree.locate .content directory path with
    | .error fault => [.error ⟨path, fault⟩]
    | .ok place =>
      (tree.listing place).flatMap fun (name, type) =>
        let inner := Path.join path name
        .ok ⟨inner, type⟩ ::
          if type = .directory then walkBelow tree directory levels inner else []

/-- What a walk meets that starts at a path.  No entry stands deeper than the tree is high. -/
def walk (tree : FileTree) (directory : Location) (root : Text) : List (Except WalkFault Visit) :=
  let below := tree.walkBelow directory (tree.height + 1) root
  match tree.locate .entry directory root with
  | .error fault => [.error ⟨root, fault⟩]
  | .ok location =>
    match tree.get? location with
    | none => [.error ⟨root, .notFound⟩]
    | some (.file _) => [.ok ⟨root, .file⟩]
    | some .directory => .ok ⟨root, .directory⟩ :: below
    | some (.link _) =>
      match tree.locate .content directory root with
      | .error fault => [.error ⟨root, fault⟩]
      | .ok target =>
        match tree.get? target with
        | none => [.error ⟨root, .notFound⟩]
        | some .directory => .ok ⟨root, .link⟩ :: below
        | some _ => [.ok ⟨root, .link⟩]

end FileTree
end ExprMigration
