import ExprMigration.Config.Reader
import ExprMigration.FileTree.Access

/-!
# Finding the configuration

The configuration file is looked for in a directory and, one after the other, in the directories
above it, as the path of the directory names them.  The search ends behind a directory that holds
a repository.  Without a configuration file the defaults hold.
-/

namespace ExprMigration

/-! ## Directories above a path -/

namespace Path

/-- A path without its last component; the root and the empty path have none to lose. -/
def parent? (path : Text) : Option Text :=
  match path.splitOn '/' with
  | [] => none
  | first :: rest =>
    match dropIdleEnd rest with
    | [] => if first = [] then none else some []
    | parts =>
      match dropIdleEnd parts.dropLast with
      | [] => some (if first = [] then ['/'] else first)
      | above => some (Text.join ['/'] (first :: above))

/-- A path and the paths above it, at most `count` of them. -/
def upwardsFrom : Nat → Text → List Text
  | 0, path => [path]
  | count + 1, path =>
    match parent? path with
    | none => [path]
    | some above => path :: upwardsFrom count above

/-- A path and all paths above it, the nearest first. -/
def upwards (path : Text) : List Text := upwardsFrom (path.length + 1) path

end Path

namespace Config

/-! ## The search -/

/-- The name of the configuration file. -/
def fileName : Text := ".exprmigrc.json".toList

/-- The name that marks the directory of a repository. -/
def repositoryMark : Text := ".git".toList

/-- The configuration file of the first of some directories that holds one, unless a repository
comes first. -/
def findIn (tree : FileTree) (directory : Location) : List Text → Option Text
  | [] => none
  | place :: above =>
    if tree.existsAt directory (Path.join place fileName) then some (Path.join place fileName)
    else if tree.existsAt directory (Path.join place repositoryMark) then none
    else findIn tree directory above

/-- The configuration file that holds for a path. -/
def find (tree : FileTree) (directory : Location) (start : Text) : Option Text :=
  findIn tree directory (Path.upwards start)

/-! ## Loading -/

/-- Why there is no configuration. -/
inductive LoadError where
  | unreadable (path : Text) (fault : Fault)
  | malformed (path : Text) (fault : ReadFault)
  | flawed (flaw : Flaw)
deriving Repr, DecidableEq

/-- What went wrong and what caused it. -/
def LoadError.chain : LoadError → List Text
  | .unreadable path fault =>
    ["Failed to read config file: ".toList ++ Text.quotedPath path, fault.message]
  | .malformed path fault =>
    ["Failed to parse config file: ".toList ++ Text.quotedPath path, fault.message]
  | .flawed flaw => flaw.chain

/-- A configuration and the file that it was read from. -/
structure Loaded where
  config : Config
  /-- The configuration file; `none` if the defaults hold. -/
  path : Option Text
deriving Repr, DecidableEq

/-- Reads and checks the configuration that holds for a path. -/
def load (tree : FileTree) (directory : Location) (start : Text) : Except LoadError Loaded :=
  match find tree directory start with
  | none => .ok ⟨{}, none⟩
  | some path =>
    match tree.read directory path with
    | .error fault => .error (.unreadable path fault)
    | .ok text =>
      match parse text with
      | .error fault => .error (.malformed path fault)
      | .ok config =>
        match config.validate with
        | .error flaw => .error (.flawed flaw)
        | .ok () => .ok ⟨config, some path⟩

end Config
end ExprMigration
