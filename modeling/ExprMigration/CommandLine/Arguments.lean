import ExprMigration.Config.Basic

/-!
# Arguments

The grammar of the command line.  The first argument names a command; options and, for `resolve`,
expressions follow in any order.  An option is written `--name value` or `--name=value`, a switch
`--name` or with its letter; everything behind `--` is an expression.

A value is taken into account only when the next option, switch or expression comes, or the end.  So
an unknown option is reported before a fault in the value in front of it.
-/

namespace ExprMigration

/-! ## Commands -/

/-- The options of all commands that look expressions up. -/
structure LookupOptions where
  customExpressions : Option Text := none
  secretScope : Option SecretScope := none
  verbose : Bool := false
deriving Repr, DecidableEq

/-- The options of the command `translate`. -/
structure TranslateOptions extends LookupOptions where
  sourceRoot : Option Text := none
  fileExtensions : Option Text := none
  dryRun : Bool := false
  failOnUnresolved : Bool := false
deriving Repr, DecidableEq

/-- A command. -/
inductive Command where
  /-- Migrate the files below a directory. -/
  | translate (options : TranslateOptions)
  /-- Look single expressions up. -/
  | resolve (expressions : List Text) (options : LookupOptions)
  /-- Make a configuration file. -/
  | init
deriving Repr, DecidableEq

/-- Whether the user asks for more messages. -/
def Command.isVerbose : Command → Bool
  | .translate options => options.verbose
  | .resolve _ options => options.verbose
  | .init => false

/-- Why the arguments name no command to run. -/
inductive UsageStop where
  | helpWanted
  | versionWanted
  | unknownCommand
  | unknownArgument
  /-- A switch or an option is given twice. -/
  | repeated
  /-- A value is missing or not one that the option can have. -/
  | badValue
  /-- A switch is given a value. -/
  | needlessValue
  /-- There is no expression. -/
  | missingArgument
deriving Repr, DecidableEq

/-- The line for a stop that is a fault of the user. -/
def UsageStop.message (stop : UsageStop) : Text :=
  let cause :=
    match stop with
    | .helpWanted => "help is asked for"
    | .versionWanted => "the version is asked for"
    | .unknownCommand => "unrecognized subcommand"
    | .unknownArgument => "unexpected argument"
    | .repeated => "an argument cannot be used multiple times"
    | .badValue => "a value is missing or invalid"
    | .needlessValue => "unexpected value for an argument"
    | .missingArgument => "required arguments were not provided"
  "error: ".toList ++ cause.toList ++ "\n\nFor more information, try '--help'.\n".toList

/-- The exit code of a stop. -/
def UsageStop.exitCode : UsageStop → Nat
  | .helpWanted | .versionWanted => 0
  | _ => 2

namespace CommandLine

/-- The values of environment variables. -/
abbrev Environment := List (Text × Text)

/-- The variable that holds the scope of secrets if no option does. -/
def scopeVariable : Text := "EXPRMIG_SECRET_SCOPE".toList

/-! ## Options -/

/-- The options of the command line. -/
inductive Opt where
  | customExpressions
  | secretScope
  | verbose
  | sourceRoot
  | fileExtensions
  | dryRun
  | failOnUnresolved
  | help
  | version
deriving Repr, DecidableEq

namespace Opt

/-- The name of an option. -/
def name : Opt → String
  | .customExpressions => "custom-expressions"
  | .secretScope => "secret-scope"
  | .verbose => "verbose"
  | .sourceRoot => "source-root"
  | .fileExtensions => "file-extensions"
  | .dryRun => "dry-run"
  | .failOnUnresolved => "fail-on-unresolved"
  | .help => "help"
  | .version => "version"

/-- The letter of a switch, if it has one. -/
def letter? : Opt → Option Char
  | .verbose => some 'v'
  | .help => some 'h'
  | .version => some 'V'
  | _ => none

/-- Whether an option has a value. -/
def hasValue : Opt → Bool
  | .customExpressions | .secretScope | .sourceRoot | .fileExtensions => true
  | _ => false

/-- Whether an option can have a value: a path is not empty, and a scope is known. -/
def accepts (opt : Opt) (value : Text) : Bool :=
  match opt with
  | .customExpressions | .sourceRoot => value ≠ []
  | .secretScope => (Config.scopeOfName? value).isSome
  | _ => true

/-- The option with a name, among some options. -/
def ofName? (opts : List Opt) (name : Text) : Option Opt :=
  opts.find? fun opt => opt.name.toList = name

/-- The switch with a letter, among some options. -/
def ofLetter? (opts : List Opt) (letter : Char) : Option Opt :=
  opts.find? fun opt => opt.letter? = some letter

end Opt

/-! ## Kinds of arguments -/

/-- What an argument looks like. -/
inductive Shape where
  /-- The mark `--`. -/
  | endOfOptions
  /-- An option by its name, and a value behind an equals sign. -/
  | long (name : Text) (value : Option Text)
  /-- Switches by their letters. -/
  | short (letters : Text)
  | word
deriving Repr, DecidableEq

/-- What an argument looks like. -/
def shape : Text → Shape
  | ['-', '-'] => .endOfOptions
  | '-' :: '-' :: rest =>
    match Text.cut? ['='] rest with
    | some (name, value) => .long name (some value)
    | none => .long rest none
  | '-' :: letter :: letters => .short (letter :: letters)
  | _ => .word

/-! ## Reading -/

/-- The arguments read so far. -/
structure Reading where
  /-- The options with their values, the last one first. -/
  given : List (Opt × Text)
  /-- An option whose value is still to come or to be taken into account. -/
  pending : Option (Opt × Option Text)
  /-- The expressions, the last one first. -/
  expressions : List Text
deriving Repr

namespace Reading

/-- Nothing read so far. -/
def start : Reading := ⟨[], none, []⟩

/-- The value of an option. -/
def value? (reading : Reading) (opt : Opt) : Option Text :=
  (reading.given.find? (·.1 = opt)).map Prod.snd

/-- Whether an option is given. -/
def has (reading : Reading) (opt : Opt) : Bool := (reading.value? opt).isSome

/-- Takes a value into account. -/
def give (reading : Reading) (opt : Opt) (value : Text) : Except UsageStop Reading :=
  if reading.has opt then .error .repeated
  else if opt.accepts value then .ok { reading with given := (opt, value) :: reading.given }
  else .error .badValue

/-- Takes the pending value into account; a fault if it did not come. -/
def settle (reading : Reading) : Except UsageStop Reading :=
  match reading.pending with
  | none => .ok reading
  | some (_, none) => .error .badValue
  | some (opt, some value) => { reading with pending := none }.give opt value

/-- Turns a switch on. -/
def switch (reading : Reading) (opt : Opt) : Except UsageStop Reading :=
  match reading.settle with
  | .error stop => .error stop
  | .ok reading =>
    match opt with
    | .help => .error .helpWanted
    | .version => .error .versionWanted
    | opt => reading.give opt []

/-- Turns switches on by their letters. -/
def switches (opts : List Opt) (reading : Reading) : Text → Except UsageStop Reading
  | [] => .ok reading
  | letter :: letters =>
    match Opt.ofLetter? opts letter with
    | none => .error .unknownArgument
    | some opt => (reading.switch opt).bind fun reading => switches opts reading letters

/-- Reads an option by its name. -/
def option (opts : List Opt) (reading : Reading) (name : Text) (value : Option Text) :
    Except UsageStop Reading :=
  match Opt.ofName? opts name with
  | none => .error .unknownArgument
  | some opt =>
    if opt.hasValue then
      reading.settle.bind fun reading =>
        match value with
        | some value => reading.give opt value
        | none => .ok { reading with pending := some (opt, none) }
    else if value.isSome then .error .needlessValue
    else reading.switch opt

/-- Reads a word that is no value: an expression, where there may be one. -/
def expression (takesWords : Bool) (reading : Reading) (word : Text) : Except UsageStop Reading :=
  if takesWords then
    reading.settle.map fun reading => { reading with expressions := word :: reading.expressions }
  else .error .unknownArgument

/-- Reads a word: the value of an option that waits for one, or an expression. -/
def word (takesWords : Bool) (reading : Reading) (word : Text) : Except UsageStop Reading :=
  match reading.pending with
  | some (opt, none) => .ok { reading with pending := some (opt, some word) }
  | _ => reading.expression takesWords word

/-- Reads the arguments behind the name of a command that has some options.  `takesWords` says
whether the command has expressions. -/
def arguments (opts : List Opt) (takesWords : Bool) (reading : Reading) :
    List Text → Except UsageStop Reading
  | [] => reading.settle
  | argument :: rest =>
    match shape argument with
    | .endOfOptions => (rest.foldlM (expression takesWords) reading).bind settle
    | .long name value =>
      (reading.option opts name value).bind fun reading => arguments opts takesWords reading rest
    | .short letters =>
      (reading.switches opts letters).bind fun reading => arguments opts takesWords reading rest
    | .word =>
      (reading.word takesWords argument).bind fun reading => arguments opts takesWords reading rest

/-- Fills in the scope of secrets from the environment. -/
def withEnvironment (environment : Environment) (reading : Reading) : Except UsageStop Reading :=
  if reading.has .secretScope then .ok reading
  else
    match environment.find? (·.1 = scopeVariable) with
    | none => .ok reading
    | some (_, value) => reading.give .secretScope value

/-- The options for looking expressions up. -/
def lookupOptions (reading : Reading) : LookupOptions :=
  { customExpressions := reading.value? .customExpressions
    secretScope := (reading.value? .secretScope).bind Config.scopeOfName?
    verbose := reading.has .verbose }

/-- The options of the command `translate`. -/
def translateOptions (reading : Reading) : TranslateOptions :=
  { toLookupOptions := reading.lookupOptions
    sourceRoot := reading.value? .sourceRoot
    fileExtensions := reading.value? .fileExtensions
    dryRun := reading.has .dryRun
    failOnUnresolved := reading.has .failOnUnresolved }

end Reading

/-! ## Commands -/

/-- The names of commands. -/
inductive Verb where
  | translate
  | resolve
  | init
  | help
deriving Repr, DecidableEq

/-- The name of a command. -/
def Verb.name : Verb → String
  | .translate => "translate"
  | .resolve => "resolve"
  | .init => "init"
  | .help => "help"

/-- The command with a name. -/
def Verb.ofName? (name : Text) : Option Verb :=
  [Verb.translate, .resolve, .init, .help].find? fun verb => verb.name.toList = name

/-- The options for looking expressions up. -/
def lookupOpts : List Opt := [.customExpressions, .secretScope, .verbose, .help]

/-- The options of the command `translate`. -/
def translateOpts : List Opt :=
  lookupOpts ++ [.sourceRoot, .fileExtensions, .dryRun, .failOnUnresolved]

/-- Reads the arguments of the command `translate`. -/
def readTranslate (environment : Environment) (arguments : List Text) :
    Except UsageStop Command := do
  let reading ← Reading.start.arguments translateOpts false arguments
  let reading ← reading.withEnvironment environment
  return .translate reading.translateOptions

/-- Reads the arguments of the command `resolve`, which needs an expression. -/
def readResolve (environment : Environment) (arguments : List Text) : Except UsageStop Command := do
  let reading ← Reading.start.arguments lookupOpts true arguments
  let reading ← reading.withEnvironment environment
  if reading.expressions = [] then .error .missingArgument
  else return .resolve reading.expressions.reverse reading.lookupOptions

/-- Reads the arguments of the command `init`, which has none. -/
def readInit (arguments : List Text) : Except UsageStop Command :=
  (Reading.start.arguments [.help] false arguments).map fun _ => .init

/-- Reads the arguments of the command `help`: the name of a command, if any. -/
def readHelp : List Text → UsageStop
  | [] => .helpWanted
  | [name] => if (Verb.ofName? name).isSome then .helpWanted else .unknownCommand
  | _ => .unknownCommand

/-- Reads a word in the place of a command where no command can stand any more. -/
def readLate : List Text → Except UsageStop (Option Command)
  | [] => .ok none
  | word :: _ =>
    if (Verb.ofName? word).isSome then .error .unknownArgument else .error .unknownCommand

/-- The command that some arguments name, if there are any. -/
def read (environment : Environment) : List Text → Except UsageStop (Option Command)
  | [] => .ok none
  | argument :: rest =>
    match Verb.ofName? argument with
    | some .translate => (readTranslate environment rest).map some
    | some .resolve => (readResolve environment rest).map some
    | some .init => (readInit rest).map some
    | some .help => .error (readHelp rest)
    | none =>
      let opts : List Opt := [.help, .version]
      match shape argument with
      | .endOfOptions => readLate rest
      | .long name value => (Reading.start.option opts name value).map fun _ => none
      | .short letters => (Reading.start.switches opts letters).map fun _ => none
      | .word => .error .unknownCommand

end CommandLine
end ExprMigration
