import ExprMigration.FileTree.Access
import ExprMigration.Resolver
import ExprMigration.Text.Blank
import ExprMigration.Yaml.FlatMap

/-!
# Files of custom entries

Custom entries come from a file that holds a flat mapping from keys to current expressions.  A blank
path and a blank file give no entries.
-/

namespace ExprMigration

/-- Why a file of custom entries cannot be used. -/
inductive CustomEntriesError where
  | unreadable (path : Text) (fault : Fault)
  | malformed (path : Text) (fault : Yaml.FlatMapFault)
deriving Repr, DecidableEq

namespace CustomEntriesError

/-- What caused an error. -/
def cause : CustomEntriesError → Text
  | .unreadable _ fault => fault.message
  | .malformed _ fault => fault.message

/-- What went wrong. -/
def message (error : CustomEntriesError) : Text :=
  match error with
  | .unreadable path _ => "failed to read custom expressions file ".toList ++ path
  | .malformed path _ =>
    "malformed custom expressions file ".toList ++ path ++ ": ".toList ++ error.cause

end CustomEntriesError

/-- The entries of a file, one for each key. -/
def EntryTable.ofFile (tree : FileTree) (directory : Location) (path : Text) :
    Except CustomEntriesError EntryTable :=
  if Text.trim path = [] then .ok []
  else
    match tree.read directory path with
    | .error fault => .error (.unreadable path fault)
    | .ok text =>
      if Text.trim text = [] then .ok []
      else
        match Yaml.readFlatMap text with
        | .error fault => .error (.malformed path fault)
        | .ok entries => .ok (EntryTable.putAll [] entries)

/-- Adds the entries of a file to a resolver. -/
def Resolver.load (resolver : Resolver) (tree : FileTree) (directory : Location) (path : Text) :
    Except CustomEntriesError Resolver :=
  (EntryTable.ofFile tree directory path).map resolver.merge

end ExprMigration
