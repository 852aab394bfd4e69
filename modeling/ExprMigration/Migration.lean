import ExprMigration.Corpus

/-!
# Migrating a corpus

A run selects and scans the files of a corpus, describes their tokens, and, unless it is a dry run,
puts the current expressions into every file that holds a token.  A run is a function of the file
tree: it returns the tree as it leaves it, also when it stops half-way.
-/

namespace ExprMigration

/-! ## Substituting in files -/

/-- What a substitution did. -/
structure ChangeSummary where
  /-- The files whose content is not what it was, in path order. -/
  changed : List Text
  /-- The tokens left in each file in which some were left, in path order. -/
  left : PathMap (List Text)
deriving Repr, DecidableEq

namespace ChangeSummary

/-- The summary of no files. -/
def empty : ChangeSummary := ⟨[], []⟩

/-- How often a token was left in a file. -/
def leftCount (summary : ChangeSummary) : Nat := (summary.left.flatMap Prod.snd).length

/-- The summary with one more file in front. -/
def withFile (summary : ChangeSummary) (path before after : Text) (left : List Text) :
    ChangeSummary :=
  { changed := if after = before then summary.changed else path :: summary.changed
    left := if left = [] then summary.left else (path, left) :: summary.left }

end ChangeSummary

/-- The result of a run and the tree after it. -/
structure Run (α : Type) where
  result : Except CorpusError α
  tree : FileTree

/-- Substitutes the scanned tokens in the files of a scan, one file after the other.  Each file is
read again first.  A failure stops the run; what was written before stays. -/
def applyFiles (resolver : Resolver) (directory : Location) :
    PathMap (List Text) → FileTree → Run ChangeSummary
  | [], tree => ⟨.ok .empty, tree⟩
  | (path, tokens) :: rest, tree =>
    match tree.read directory path with
    | .error fault => ⟨.error (.unreadable path fault), tree⟩
    | .ok before =>
      let (after, left) := resolver.substitute tokens before
      match tree.write directory path (.text after) with
      | .error fault => ⟨.error (.unwritable path fault), tree⟩
      | .ok written =>
        let run := applyFiles resolver directory rest written
        ⟨run.result.map (·.withFile path before after left), run.tree⟩

/-- Substitutes the tokens of a scan in its files. -/
def CorpusScan.apply (scan : CorpusScan) (resolver : Resolver) (directory : Location)
    (tree : FileTree) : Run ChangeSummary :=
  applyFiles resolver directory scan.files tree

/-! ## Whole runs -/

/-- What to migrate, and whether only to look. -/
structure MigrationOptions extends Selection where
  dryRun : Bool

/-- How a run ended, with the number of selected files. -/
inductive MigrationOutcome where
  | nothingFound (selected : Nat)
  | dryRun (selected : Nat) (scan : CorpusScan) (rows : List TokenRow)
  | applied (selected : Nat) (scan : CorpusScan) (rows : List TokenRow) (summary : ChangeSummary)
deriving Repr, DecidableEq

/-- Migrates the selected files, which are scanned with a race of some outcome. -/
def migrate (resolver : Resolver) (options : MigrationOptions) (directory : Location)
    (tree : FileTree) (race : Nat := 0) : Run MigrationOutcome :=
  match options.toSelection.files tree directory with
  | .error error => ⟨.error error, tree⟩
  | .ok paths =>
    match CorpusScan.ofPaths tree directory paths race with
    | .error error => ⟨.error error, tree⟩
    | .ok scan =>
      if scan.isEmpty then ⟨.ok (.nothingFound paths.length), tree⟩
      else
        let rows := scan.describe resolver
        if options.dryRun then ⟨.ok (.dryRun paths.length scan rows), tree⟩
        else
          let run := scan.apply resolver directory tree
          ⟨run.result.map (.applied paths.length scan rows), run.tree⟩

end ExprMigration
