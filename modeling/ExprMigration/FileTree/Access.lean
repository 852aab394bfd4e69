import ExprMigration.FileTree.Basic

/-!
# Reaching files by path

A path is followed from a working directory, name by name and through symbolic links, to the
location that it denotes.  Reading, writing and asking for existence are defined on that location.
At most forty links are followed on one way.
-/

namespace ExprMigration

/-- Why a file cannot be reached or read. -/
inductive Fault where
  | notFound
  | notDirectory
  | isDirectory
  | nameTooLong
  | tooManyLinks
  /-- The path holds the character with the number zero, which no name can have. -/
  | impossibleName
  /-- The file holds bytes that are not UTF-8. -/
  | notText
deriving Repr, DecidableEq

namespace Fault

/-- The words for a fault. -/
def message : Fault → Text
  | .notFound => "No such file or directory (os error 2)".toList
  | .notDirectory => "Not a directory (os error 20)".toList
  | .isDirectory => "Is a directory (os error 21)".toList
  | .nameTooLong => "File name too long (os error 36)".toList
  | .tooManyLinks => "Too many levels of symbolic links (os error 40)".toList
  | .impossibleName => "file name contained an unexpected NUL byte".toList
  | .notText => "stream did not contain valid UTF-8".toList

end Fault

namespace FileTree

/-! ## Following a path -/

/-- What a path is followed for. -/
inductive Purpose where
  /-- For the entry itself, even if it is a link. -/
  | entry
  /-- For what the entry stands for. -/
  | content
  /-- For writing a file that may not exist yet. -/
  | creation
deriving Repr, DecidableEq

/-- One step of a path. -/
inductive Step where
  /-- Stay, in what has to be a directory. -/
  | stay
  | up
  | down (name : Text)
  /-- The slash at the end of a path, in front of which there has to be a directory. -/
  | slash
deriving Repr, DecidableEq

/-- The step that a part of a path stands for. -/
def Step.ofPart (part : Text) : Step :=
  if part = ['.'] then .stay else if part = ['.', '.'] then .up else .down part

/-- The steps of a path. -/
def steps (path : Text) : List Step :=
  let parts := (path.splitOn '/').filter (· ≠ [])
  parts.map Step.ofPart ++ if path.getLast? = some '/' then [.slash] else []

/-- Where the way along some steps ends. -/
inductive Stop where
  /-- At this location, where there may be no entry. -/
  | at (location : Location)
  /-- In front of a link in this directory, with the steps that follow it. -/
  | link (directory : Location) (target : Text) (rest : List Step)
  | fault (fault : Fault)

/-- The number of bytes that a name can have. -/
def nameLimit : Nat := 255

/-- The number of bytes that a path can have. -/
def pathLimit : Nat := 4095

/-- Goes along steps from a directory up to the first link.  A link in last place is passed over if
the entry itself is wanted.  No file can be made under a name with a slash behind it. -/
def advance (tree : FileTree) (purpose : Purpose) (here : Location) : List Step → Stop
  | [] => .at here
  | .stay :: rest | .slash :: rest => advance tree purpose here rest
  | .up :: rest => advance tree purpose here.dropLast rest
  | .down name :: rest =>
    let there := here ++ [name]
    if nameLimit < Text.utf8Size name then .fault .nameTooLong
    else if purpose = .creation ∧ rest = [.slash] then .fault .isDirectory
    else
      match tree.get? there with
      | none => if rest = [] then .at there else .fault .notFound
      | some .directory => advance tree purpose there rest
      | some (.file _) => if rest = [] then .at there else .fault .notDirectory
      | some (.link target) =>
        if rest = [] ∧ purpose = .entry then .at there else .link here target rest

/-- The directory from which a path starts. -/
def origin (directory : Location) (path : Text) : Location :=
  if Path.isAbsolute path then [] else directory

/-- Goes along steps from a directory, through at most `links` links. -/
def travel (tree : FileTree) (purpose : Purpose) (links : Nat) (here : Location)
    (way : List Step) : Except Fault Location :=
  match tree.advance purpose here way, links with
  | .at location, _ => .ok location
  | .fault fault, _ => .error fault
  | .link _ _ _, 0 => .error .tooManyLinks
  | .link directory target rest, links + 1 =>
    travel tree purpose links (origin directory target) (steps target ++ rest)

/-- The number of links that are followed on one way. -/
def linkLimit : Nat := 40

/-- The location that a path denotes, seen from a working directory. -/
def locate (tree : FileTree) (purpose : Purpose) (directory : Location) (path : Text) :
    Except Fault Location :=
  if path = [] then .error .notFound
  else if path.contains '\x00' then .error .impossibleName
  else if pathLimit < Text.utf8Size path then .error .nameTooLong
  else tree.travel purpose linkLimit (origin directory path) (steps path)

/-! ## Reading and writing -/

/-- The text of the file at a location. -/
def readAt (tree : FileTree) (location : Location) : Except Fault Text :=
  match tree.get? location with
  | some (.file (.text t)) => .ok t
  | some (.file (.bytes _)) => .error .notText
  | some .directory => .error .isDirectory
  | some (.link _) | none => .error .notFound

/-- The text of the file that a path denotes. -/
def read (tree : FileTree) (directory : Location) (path : Text) : Except Fault Text :=
  (tree.locate .content directory path).bind tree.readAt

/-- Whether a path denotes an entry. -/
def existsAt (tree : FileTree) (directory : Location) (path : Text) : Bool :=
  match tree.locate .content directory path with
  | .ok location => (tree.get? location).isSome
  | .error _ => false

/-- The tree after writing a file by path; the file is made if it does not exist. -/
def write (tree : FileTree) (directory : Location) (path : Text) (content : Content) :
    Except Fault FileTree :=
  match tree.locate .creation directory path with
  | .error fault => .error fault
  | .ok location =>
    match tree.get? location with
    | some .directory => .error .isDirectory
    | _ => .ok (tree.put location (.file content))

end FileTree
end ExprMigration
