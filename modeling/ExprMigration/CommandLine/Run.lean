import ExprMigration.CommandLine.Arguments
import ExprMigration.Config.Search
import ExprMigration.CustomEntries
import ExprMigration.Report.Basic

/-!
# Running a command

A command runs in a session: a tree of files, a working directory and the environment.  It leaves a
tree and answers with an exit code and two texts.  A failure before the first write leaves the tree
as it was.
-/

namespace ExprMigration
namespace CommandLine

/-! ## Failures -/

/-- Why a command fails. -/
inductive CommandError where
  | configuration (error : Config.LoadError)
  /-- The configuration is flawed once the options have been put in. -/
  | settings (flaw : Config.Flaw)
  | customEntries (error : CustomEntriesError)
  | corpus (root : Text) (error : CorpusError)
  | configurationExists
  | creation (fault : Fault)
deriving Repr, DecidableEq

/-- What went wrong and what caused it, one cause after the other. -/
def CommandError.chain : CommandError → List Text
  | .configuration error => error.chain
  | .settings flaw => flaw.chain
  | .customEntries error => [error.message, error.cause]
  | .corpus root error =>
    ("Failed to translate expressions under ".toList ++ root) :: error.message :: error.causes
  | .configurationExists => [Config.fileName ++ " already exists".toList]
  | .creation fault => [fault.message]

/-- The line that reports a failure with some chain of causes. -/
def errorLine (chain : List Text) : Text :=
  "Error: ".toList ++ Text.join ": ".toList chain ++ ['\n']

/-! ## Sessions -/

/-- What a command can see. -/
structure Session where
  tree : FileTree
  /-- The working directory. -/
  directory : Location
  environment : Environment
  /-- Whether reports are in colour. -/
  colour : Bool

/-- The path of a location. -/
def pathOf (location : Location) : Text := '/' :: Text.join ['/'] location

namespace Session

/-- The path of the working directory. -/
def directoryPath (session : Session) : Text := pathOf session.directory

/-- The configuration that holds in the working directory, with the options put in. -/
def configuration (session : Session) (options : LookupOptions) : Except CommandError Config :=
  match Config.load session.tree session.directory session.directoryPath with
  | .error error => .error (.configuration error)
  | .ok loaded =>
    .ok { loaded.config with
      customExpressionsFile := options.customExpressions.or loaded.config.customExpressionsFile
      secretScope := options.secretScope.getD loaded.config.secretScope }

/-- The resolver that a configuration asks for. -/
def resolver (session : Session) (config : Config) : Except CommandError Resolver :=
  let resolver := Resolver.builtin config.secretScope
  match config.customPath? with
  | none => .ok resolver
  | some path =>
    match resolver.load session.tree session.directory path with
    | .error error => .error (.customEntries error)
    | .ok resolver => .ok resolver

end Session

/-! ## Commands -/

/-- What a command found, and whether expressions without a current form make it fail. -/
structure Completed where
  report : Report
  /-- How many expressions have no current form. -/
  unresolved : Nat
  failOnUnresolved : Bool
deriving Repr, DecidableEq

/-- The end of a command and the tree that it leaves. -/
structure Ending where
  result : Except CommandError Completed
  tree : FileTree

/-- The end of a command that fails before it has written anything. -/
def Session.failed (session : Session) (error : CommandError) : Ending :=
  ⟨.error error, session.tree⟩

/-- How many of some rows have no current form. -/
def unresolvedRows (rows : List TokenRow) : Nat :=
  (rows.filter fun row => !row.resolution.isResolved).length

/-- How many expressions a migration left: different ones if it only looked, and one for each file
that holds it if it wrote. -/
def unresolvedCount : MigrationOutcome → Nat
  | .nothingFound _ => 0
  | .dryRun _ _ rows => unresolvedRows rows
  | .applied _ _ _ summary => summary.leftCount

/-- A configuration with the options of the command `translate` put in. -/
def withTranslateOptions (config : Config) (options : TranslateOptions) : Config :=
  { config with
    sourceRoot := options.sourceRoot.getD config.sourceRoot
    fileExtensions := options.fileExtensions.getD config.fileExtensions
    dryRun := config.dryRun || options.dryRun
    failOnUnresolved := config.failOnUnresolved || options.failOnUnresolved }

/-- Migrates what a checked configuration selects. -/
def Session.migrate (session : Session) (config : Config) (ignores : List Glob.Pattern)
    (resolver : Resolver) (race : Nat) : Ending :=
  let root := Path.join session.directoryPath config.sourceRoot
  let options : MigrationOptions :=
    { root, extensions := config.extensions, ignores, dryRun := config.dryRun }
  let run := ExprMigration.migrate resolver options session.directory session.tree race
  match run.result with
  | .error error => ⟨.error (.corpus root error), run.tree⟩
  | .ok outcome =>
    ⟨.ok ⟨.migration root outcome, unresolvedCount outcome, config.failOnUnresolved⟩, run.tree⟩

/-- The command `translate`.  The settings are checked and the custom entries read before any other
file. -/
def Session.translate (session : Session) (options : TranslateOptions) (race : Nat) : Ending :=
  match session.configuration options.toLookupOptions with
  | .error error => session.failed error
  | .ok config =>
    let config := withTranslateOptions config options
    match config.validate, config.ignorePatterns with
    | .error flaw, _ | .ok (), .error flaw => session.failed (.settings flaw)
    | .ok (), .ok ignores =>
      match session.resolver config with
      | .error error => session.failed error
      | .ok resolver => session.migrate config ignores resolver race

/-- What a resolver says about an expression: a token, or a key alone.  Blanks around it do not
count. -/
def lookup (resolver : Resolver) (expression : Text) : TokenRow :=
  ⟨expression, resolver.resolveToken (Text.trim expression)⟩

/-- The command `resolve`. -/
def Session.resolve (session : Session) (expressions : List Text) (options : LookupOptions) :
    Ending :=
  match session.configuration options with
  | .error error => session.failed error
  | .ok config =>
    match session.resolver config with
    | .error error => session.failed error
    | .ok resolver =>
      let rows := expressions.map (lookup resolver)
      ⟨.ok ⟨.lookup rows, unresolvedRows rows, false⟩, session.tree⟩

/-- The command `init`. -/
def Session.init (session : Session) : Ending :=
  if session.tree.existsAt session.directory Config.fileName then
    session.failed .configurationExists
  else
    match session.tree.write session.directory Config.fileName (.text Config.defaultText) with
    | .error fault => session.failed (.creation fault)
    | .ok tree => ⟨.ok ⟨.creation Config.fileName, 0, false⟩, tree⟩

/-- Runs a command.  Only a scan of files is a race. -/
def Session.run (session : Session) (command : Command) (race : Nat) : Ending :=
  match command with
  | .translate options => session.translate options race
  | .resolve expressions options => session.resolve expressions options
  | .init => session.init

/-! ## Answers -/

/-- The exit code of a command: 1 if expressions were left that must not be left, 2 on a failure. -/
def exitCode : Except CommandError Completed → Nat
  | .error _ => 2
  | .ok completed => if completed.failOnUnresolved ∧ 0 < completed.unresolved then 1 else 0

/-- The text that is shown without any arguments. -/
def shortHelp : Text :=
  ("A fast CLI tool for migrating first-gen pipeline expressions to next-gen syntax\n" ++
    "\n" ++
    "Usage: exprmig [COMMAND]\n" ++
    "\n" ++
    "Commands:\n" ++
    "  translate  Replace first-gen `$\x7b...\x7d` expressions with next-gen `<+...>` expressions " ++
    "in place\n" ++
    "  resolve    Show the next-gen equivalent of individual expressions\n" ++
    "  init       Initialize a new .exprmigrc.json configuration file\n" ++
    "  help       Print this message or the help of the given subcommand(s)\n" ++
    "\n" ++
    "Options:\n" ++
    "  -h, --help     Print help\n" ++
    "  -V, --version  Print version\n").toList

/-- What a command line does. -/
inductive Answer where
  /-- The arguments name no command to run. -/
  | stopped (stop : UsageStop)
  /-- There are no arguments. -/
  | helped
  | ended (ending : Ending)

/-- Runs a command line. -/
def Session.answer (session : Session) (arguments : List Text) (race : Nat := 0) : Answer :=
  match read session.environment arguments with
  | .error stop => .stopped stop
  | .ok none => .helped
  | .ok (some command) => .ended (session.run command race)

namespace Answer

/-- The exit code. -/
def exitCode : Answer → Nat
  | .stopped stop => stop.exitCode
  | .helped => 0
  | .ended ending => CommandLine.exitCode ending.result

/-- The tree that is left, given the tree before. -/
def tree (before : FileTree) : Answer → FileTree
  | .stopped _ | .helped => before
  | .ended ending => ending.tree

/-- The text on standard output. -/
def output (colour : Bool) : Answer → Text
  | .stopped _ => []
  | .helped => shortHelp
  | .ended ending =>
    match ending.result with
    | .error _ => []
    | .ok completed => completed.report.write colour

/-- The text on standard error. -/
def errorOutput : Answer → Text
  | .stopped _ | .helped => []
  | .ended ending =>
    match ending.result with
    | .error error => errorLine error.chain
    | .ok _ => []

end Answer
end CommandLine
end ExprMigration
