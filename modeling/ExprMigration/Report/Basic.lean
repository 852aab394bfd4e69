import ExprMigration.Migration
import ExprMigration.Report.Style
import ExprMigration.Report.Table
import ExprMigration.Text.Digits

/-!
# Reports

What a command tells its user on success: tables of expressions and files, and a line that sums
up.
-/

namespace ExprMigration

/-- The result of a command. -/
inductive Report where
  /-- A corpus below a root was migrated. -/
  | migration (root : Text) (outcome : MigrationOutcome)
  /-- Single expressions were looked up. -/
  | lookup (rows : List TokenRow)
  /-- A file was made. -/
  | creation (path : Text)
deriving Repr, DecidableEq

namespace Report

/-! ## Tables -/

/-- The row of an expression: whether it has a current form, and which. -/
def expressionCells (row : TokenRow) : List Text :=
  [ row.token,
    (if row.resolution.isResolved then "Yes" else "No").toList,
    row.resolution.value?.getD [] ]

/-- The table of some expressions; nothing if there are none. -/
def expressionTable (rows : List TokenRow) : Text :=
  if rows = [] then []
  else
    Table.draw
      { title := "Equivalent Expressions".toList
        headers := ["First Gen".toList, "Supported?".toList, "Next Gen".toList]
        rows := rows.map expressionCells }

/-- The table of some files with their expressions. -/
def fileTable (title : String) (root : Text) (files : PathMap (List Text)) : Text :=
  Table.draw
    { title := title.toList
      headers := ["File".toList, "Expressions".toList]
      rows := files.map fun (path, tokens) => [Path.display root path, Text.join ", ".toList tokens] }

/-- The tables that every report on a found corpus begins with. -/
def corpusTables (root : Text) (scan : CorpusScan) (rows : List TokenRow) : Text :=
  expressionTable rows ++ fileTable "Files containing expressions" root scan.files

/-! ## Lines -/

/-- A number of things. -/
def counted (count : Nat) (one many : String) : Text :=
  Text.ofNat count ++ ' ' :: (if count = 1 then one else many).toList

/-- The mark of a success. -/
def successMark : Char := '✓'

/-- The mark of something that could not be done. -/
def failureMark : Char := '✘'

/-- The line on a success. -/
def successLine (colour : Bool) (t : Text) : Text :=
  Style.success.paintMarked colour successMark t

/-- The line on expressions that were left, if there are any. -/
def leftLine (colour : Bool) (count : Nat) : Text :=
  if count = 0 then []
  else
    Style.warning.paintMarked colour failureMark
      (counted count "expression" "expressions" ++ " could not be replaced".toList)

/-- The lines on what a substitution did. -/
def changeLines (colour : Bool) (summary : ChangeSummary) : Text :=
  successLine colour
    ("Replaced expressions in ".toList ++ counted summary.changed.length "file" "files") ++
  leftLine colour summary.leftCount

/-- The report on a migration. -/
def writeMigration (colour : Bool) (root : Text) : MigrationOutcome → Text
  | .nothingFound selected =>
    successLine colour ("Scanned ".toList ++ counted selected "file" "files" ++
      " - no files found containing expressions".toList)
  | .dryRun _ scan rows =>
    corpusTables root scan rows ++ Style.note.paint colour "note:".toList ++
      " Dry run: skipped replacement in ".toList ++
      counted scan.files.length "file" "files" ++ ['\n']
  | .applied _ scan rows summary =>
    corpusTables root scan rows ++
      (if summary.left = [] then []
        else fileTable "Expressions not replaced" root summary.left) ++
      changeLines colour summary

/-- The text of a report. -/
def write (colour : Bool) : Report → Text
  | .migration root outcome => writeMigration colour root outcome
  | .lookup rows => expressionTable rows
  | .creation path => successLine colour ("Created ".toList ++ path)

end Report
end ExprMigration
