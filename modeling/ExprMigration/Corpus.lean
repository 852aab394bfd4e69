import ExprMigration.FileTree.Walk
import ExprMigration.Glob
import ExprMigration.Resolver

/-!
# The corpus

A selection picks files below a directory by their extensions, less those that match an ignore
pattern.  Scanning picked files gives, for each file that holds a token, the tokens of the file,
and all tokens of the corpus together.

The files of a scan are read at the same time.  What a scan finds does not depend on which of them is
read first, but which failure it returns does, if several files cannot be read: that is settled by a race,
whose outcome is an argument of the scan.  Where none is given, the first of these files is named.
-/

namespace ExprMigration

/-- Why a run over a corpus stops, with the path at which it stops. -/
inductive CorpusError where
  | unwalkable (path : Text) (fault : Fault)
  | unreadable (path : Text) (fault : Fault)
  | unwritable (path : Text) (fault : Fault)
deriving Repr, DecidableEq

namespace CorpusError

/-- What went wrong. -/
def message : CorpusError → Text
  | .unwalkable path _ => "failed to walk ".toList ++ path
  | .unreadable path _ => "failed to read ".toList ++ path
  | .unwritable path _ => "failed to write ".toList ++ path

/-- What caused it, from the nearest cause to the farthest. -/
def causes : CorpusError → List Text
  | .unwalkable path fault =>
    ["IO error for operation on ".toList ++ path ++ ": ".toList ++ fault.message, fault.message]
  | .unreadable _ fault | .unwritable _ fault => [fault.message]

end CorpusError

/-! ## Selecting files -/

/-- Which files below a directory belong to the corpus. -/
structure Selection where
  root : Text
  /-- Extensions without the dot in front. -/
  extensions : List Text
  ignores : List Glob.Pattern

namespace Selection

/-- A path as the ignore patterns see it: what is behind the root. -/
def relative (selection : Selection) (path : Text) : Text :=
  (Path.below? selection.root path).getD path

/-- Whether a file is picked. -/
def picks (selection : Selection) (path : Text) : Bool :=
  !selection.ignores.any (Glob.accepts · (selection.relative path)) &&
    selection.extensions.any fun extension =>
      Text.endsWith ('.' :: extension) (Path.fileName path)

/-- The picked files of a walk, up to its first fault. -/
def gather (selection : Selection) : List (Except WalkFault Visit) → Except CorpusError (List Text)
  | [] => .ok []
  | .error stop :: _ => .error (.unwalkable stop.path stop.fault)
  | .ok visit :: rest =>
    if visit.type = .file ∧ selection.picks visit.path then
      (selection.gather rest).map (visit.path :: ·)
    else selection.gather rest

/-- The paths of the picked files at and below the root. -/
def files (selection : Selection) (tree : FileTree) (directory : Location) :
    Except CorpusError (List Text) :=
  selection.gather (tree.walk directory selection.root)

end Selection

/-! ## Maps by path -/

/-- A map by path, in path order.  Two texts that write one path are one key. -/
abbrev PathMap (α : Type) := List (Text × α)

namespace PathMap

/-- Gives a path a value.  A path that is present keeps its writing. -/
def put {α : Type} (map : PathMap α) (path : Text) (value : α) : PathMap α :=
  match map with
  | [] => [(path, value)]
  | (present, old) :: rest =>
    if Path.same present path then (present, value) :: rest
    else if Path.le present path then (present, old) :: put rest path value
    else (path, value) :: (present, old) :: rest

/-- The map of the given values; a later value of one path replaces an earlier one. -/
def ofList {α : Type} (values : List (Text × α)) : PathMap α :=
  values.foldl (fun map (path, value) => map.put path value) []

end PathMap

/-! ## Steps at the same time -/

/-- The failure of a step that fails. -/
def failure? {ε α : Type} : Except ε α → Option ε
  | .error error => some error
  | .ok _ => none

/-- The values of steps that are taken at the same time, in the order of the steps.  If any fail, the
failure of one of them is returned, and the race between them settles which one. -/
def collect {ε α : Type} (results : List (Except ε α)) (race : Nat) : Except ε (List α) :=
  let failures := results.filterMap failure?
  match failures[race % failures.length]? with
  | some error => .error error
  | none => .ok (results.filterMap Except.toOption)

/-! ## Scanning -/

/-- The tokens found in a corpus. -/
structure CorpusScan where
  /-- The tokens of each file that holds one, in the order of `Token.tokens`. -/
  files : PathMap (List Text)
  /-- All tokens, in the order of their characters. -/
  tokens : List Text
deriving Repr, DecidableEq

namespace CorpusScan

/-- The scan of no files. -/
def empty : CorpusScan := ⟨[], []⟩

/-- Whether no token was found. -/
def isEmpty (scan : CorpusScan) : Bool := scan.files.isEmpty

/-- Reads a file and finds its tokens. -/
def readTokens (tree : FileTree) (directory : Location) (path : Text) :
    Except CorpusError (Text × List Text) :=
  match tree.read directory path with
  | .error fault => .error (.unreadable path fault)
  | .ok t => .ok (path, Token.tokens t)

/-- Reads files, all at the same time, and finds their tokens. -/
def readAll (tree : FileTree) (directory : Location) (paths : List Text) (race : Nat) :
    Except CorpusError (List (Text × List Text)) :=
  collect (paths.map (readTokens tree directory)) race

/-- Gathers the tokens of read files. -/
def ofReadings (readings : List (Text × List Text)) : CorpusScan :=
  let holding := readings.filter fun (_, tokens) => !tokens.isEmpty
  { files := PathMap.ofList holding
    tokens := (holding.flatMap Prod.snd).eraseDups.mergeSort fun a b => !decide (b < a) }

/-- The scan of the files with the given paths. -/
def ofPaths (tree : FileTree) (directory : Location) (paths : List Text) (race : Nat := 0) :
    Except CorpusError CorpusScan :=
  (readAll tree directory paths race).map ofReadings

end CorpusScan

/-! ## Describing -/

/-- A token and what a resolver says about it. -/
structure TokenRow where
  token : Text
  resolution : Resolution
deriving Repr, DecidableEq

/-- What a resolver says about every token of a corpus, in the order of the tokens. -/
def CorpusScan.describe (scan : CorpusScan) (resolver : Resolver) : List TokenRow :=
  scan.tokens.map fun token => ⟨token, resolver.resolveToken token⟩

end ExprMigration
