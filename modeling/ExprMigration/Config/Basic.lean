import ExprMigration.Family
import ExprMigration.Glob
import ExprMigration.Json.Printer
import ExprMigration.Text.Blank

/-!
# Configuration

The settings of a run, their defaults, what they mean, and how they are written as a JSON record.
-/

namespace ExprMigration

/-- The settings of a run. -/
structure Config where
  /-- The directory whose files are migrated. -/
  sourceRoot : Text := "./".toList
  /-- The extensions of the files, separated by commas. -/
  fileExtensions : Text := "yaml,yml".toList
  customExpressionsFile : Option Text := none
  dryRun : Bool := false
  secretScope : SecretScope := .none
  /-- Patterns of files that are left out. -/
  ignores : List Text := []
  failOnUnresolved : Bool := false
deriving Repr, DecidableEq

namespace Config

/-! ## Meaning -/

/-- What is wrong with a configuration. -/
inductive Flaw where
  | ignorePattern (pattern : Text) (error : Glob.PatternError)
  | noExtension
deriving Repr, DecidableEq

/-- What went wrong and what caused it. -/
def Flaw.chain : Flaw → List Text
  | .ignorePattern pattern error =>
    ["Invalid glob pattern in 'ignores': \"".toList ++ pattern ++ ['"'], error.message]
  | .noExtension => ["'fileExtensions' must list at least one extension, e.g. \"yaml,yml\"".toList]

/-- The extensions without dots in front. -/
def extensions (config : Config) : List Text :=
  ((Text.items ',' config.fileExtensions).map fun item => item.dropWhile (· == '.')).filter (· ≠ [])

/-- The patterns that some texts write. -/
def patternsOf : List Text → Except Flaw (List Glob.Pattern)
  | [] => .ok []
  | text :: rest =>
    match Glob.parse text with
    | .error error => .error (.ignorePattern text error)
    | .ok pattern => (patternsOf rest).map (pattern :: ·)

/-- The patterns of files that are left out. -/
def ignorePatterns (config : Config) : Except Flaw (List Glob.Pattern) := patternsOf config.ignores

/-- Checks that the patterns are well formed and that there is an extension. -/
def validate (config : Config) : Except Flaw Unit :=
  match config.ignorePatterns with
  | .error flaw => .error flaw
  | .ok _ => if config.extensions = [] then .error .noExtension else .ok ()

/-- The path of the file with custom expressions, if one is given that is not blank. -/
def customPath? (config : Config) : Option Text :=
  match config.customExpressionsFile with
  | none => none
  | some path => if Text.trim path = [] then none else some (Text.trim path)

/-! ## As a record -/

/-- The name of a scope in a configuration and on the command line. -/
def scopeName : SecretScope → String
  | .none => "none"
  | .account => "account"
  | .org => "org"

/-- The scope with a name. -/
def scopeOfName? (name : Text) : Option SecretScope :=
  [SecretScope.none, .account, .org].find? fun scope => (scopeName scope).toList = name

/-- A configuration as a JSON record. -/
def toJson (config : Config) : Json :=
  .object
    [ Json.member "sourceRoot" (.text config.sourceRoot),
      Json.member "fileExtensions" (.text config.fileExtensions),
      Json.member "customExpressionsFile" (config.customExpressionsFile.elim .null .text),
      Json.member "dryRun" (.bool config.dryRun),
      Json.member "secretScope" (.text (scopeName config.secretScope).toList),
      Json.member "ignores" (.array (config.ignores.map .text)),
      Json.member "failOnUnresolved" (.bool config.failOnUnresolved) ]

/-- The text of a configuration file. -/
def render (config : Config) : Text := config.toJson.write

/-- The text of a configuration file with the defaults. -/
def defaultText : Text := render {}

end Config
end ExprMigration
