import ExprMigration.Config.Basic
import ExprMigration.Json.Reader

/-!
# Reading a configuration

A configuration file is a JSON record that overlays the defaults: a known name sets its setting,
any other name is passed over.  An array sets the settings by their position.  The first fault in
the order of the text is the one that is reported.
-/

namespace ExprMigration
namespace Config

/-- Why a text is no configuration. -/
inductive ReadFault where
  /-- The text is not JSON, or not of a form that a configuration can have. -/
  | malformed
  /-- There is one type of value where another one is needed. -/
  | wrongType (found : Text) (needed : String)
  | unknownScope (name : Text)
  | repeated (setting : String)
deriving Repr, DecidableEq

/-- The words for a fault. -/
def ReadFault.message : ReadFault → Text
  | .malformed => "not a JSON text of a configuration".toList
  | .wrongType found needed =>
    "invalid type: ".toList ++ found ++ ", expected ".toList ++ needed.toList
  | .unknownScope name =>
    "unknown variant `".toList ++ name ++ "`, expected one of `none`, `account`, `org`".toList
  | .repeated setting => "duplicate field `".toList ++ setting.toList ++ ['`']

/-! ## Single values -/

/-- How a message calls a value; `none` for a value that cannot be read. -/
def called? : Json → Option Text
  | .null => some "null".toList
  | .bool value => some ("boolean `".toList ++ (toString value).toList ++ ['`'])
  | .number literal =>
    match Json.Number.ofText literal with
    | some (.natural value) => some ("integer `".toList ++ (toString value).toList ++ ['`'])
    | some (.negative value) => some ("integer `-".toList ++ (toString value).toList ++ ['`'])
    | some (.float value) =>
      some ("floating point `".toList ++ Decimal.write .compact value ++ ['`'])
    | some .tooLarge | none => none
  | .text value => some ("string ".toList ++ Text.quoted value)
  | .array _ => some "sequence".toList
  | .object _ => some "map".toList
  | .unpaired | .broken => none

/-- The fault of a value that is not of the needed type. -/
def mismatch (needed : String) (value : Json) : ReadFault :=
  match called? value with
  | some found => .wrongType found needed
  | none => .malformed

/-- A value that has to be a text. -/
def readText : Json → Except ReadFault Text
  | .text value => .ok value
  | value => .error (mismatch "a string" value)

/-- A value that has to be a truth value. -/
def readBool : Json → Except ReadFault Bool
  | .bool value => .ok value
  | value => .error (mismatch "a boolean" value)

/-- A value that may be missing. -/
def readOptionalText : Json → Except ReadFault (Option Text)
  | .null => .ok none
  | value => (readText value).map some

/-- Values that have to be texts. -/
def readAllTexts : List Json → Except ReadFault (List Text)
  | [] => .ok []
  | item :: rest => do return (← readText item) :: (← readAllTexts rest)

/-- A value that has to be an array of texts. -/
def readTexts : Json → Except ReadFault (List Text)
  | .array items => readAllTexts items
  | value => .error (mismatch "a sequence" value)

/-- The scope with a name. -/
def readScopeName (name : Text) : Except ReadFault SecretScope :=
  match scopeOfName? name with
  | some scope => .ok scope
  | none => .error (.unknownScope name)

/-- A value that has to be a scope: its name, or a record whose only member has the name and no
value. -/
def readScope : Json → Except ReadFault SecretScope
  | .text name => readScopeName name
  | .object ((.text name, value) :: others) =>
    match readScopeName name, value with
    | .error fault, _ => .error fault
    | .ok scope, .null => if others.isEmpty then .ok scope else .error .malformed
    | .ok _, value => .error (mismatch "unit" value)
  | .object ((name, _) :: _) => .error (mismatch "variant identifier" name)
  | _ => .error .malformed

/-! ## Settings -/

/-- The settings. -/
inductive Setting where
  | sourceRoot
  | fileExtensions
  | customExpressionsFile
  | dryRun
  | secretScope
  | ignores
  | failOnUnresolved
deriving Repr, DecidableEq

namespace Setting

/-- The settings in the order of their positions. -/
def all : List Setting :=
  [.sourceRoot, .fileExtensions, .customExpressionsFile, .dryRun, .secretScope, .ignores,
    .failOnUnresolved]

/-- The name of a setting in a record. -/
def name : Setting → String
  | .sourceRoot => "sourceRoot"
  | .fileExtensions => "fileExtensions"
  | .customExpressionsFile => "customExpressionsFile"
  | .dryRun => "dryRun"
  | .secretScope => "secretScope"
  | .ignores => "ignores"
  | .failOnUnresolved => "failOnUnresolved"

/-- The setting with a name. -/
def ofName? (name : Text) : Option Setting := all.find? fun setting => setting.name.toList = name

/-- A configuration with one setting read from a value. -/
def read (setting : Setting) (value : Json) (config : Config) : Except ReadFault Config :=
  match setting with
  | .sourceRoot => (readText value).map fun v => { config with sourceRoot := v }
  | .fileExtensions => (readText value).map fun v => { config with fileExtensions := v }
  | .customExpressionsFile =>
    (readOptionalText value).map fun v => { config with customExpressionsFile := v }
  | .dryRun => (readBool value).map fun v => { config with dryRun := v }
  | .secretScope => (readScope value).map fun v => { config with secretScope := v }
  | .ignores => (readTexts value).map fun v => { config with ignores := v }
  | .failOnUnresolved => (readBool value).map fun v => { config with failOnUnresolved := v }

end Setting

/-! ## Records -/

/-- A configuration with the settings of some members; `seen` are the settings that were read
before. -/
def readMembers (config : Config) (seen : List Setting) :
    List (Json × Json) → Except ReadFault Config
  | [] => .ok config
  | (.text name, value) :: rest =>
    match Setting.ofName? name with
    | none => readMembers config seen rest
    | some setting =>
      if setting ∈ seen then .error (.repeated setting.name)
      else
        match setting.read value config with
        | .error fault => .error fault
        | .ok config => readMembers config (setting :: seen) rest
  | _ :: _ => .error .malformed

/-- A configuration with settings by position. -/
def readItems (config : Config) : List Setting → List Json → Except ReadFault Config
  | _, [] => .ok config
  | [], _ :: _ => .error .malformed
  | setting :: settings, value :: rest =>
    match setting.read value config with
    | .error fault => .error fault
    | .ok config => readItems config settings rest

/-- The configuration that a value stands for. -/
def ofJson : Json → Except ReadFault Config
  | .object members => readMembers {} [] members
  | .array items => readItems {} Setting.all items
  | value => .error (mismatch "struct Config" value)

/-- The configuration that a text writes. -/
def parse (t : Text) : Except ReadFault Config :=
  let (value, rest) := Json.read t
  match ofJson value, rest with
  | .error fault, _ => .error fault
  | .ok config, some rest => if Json.skipBlanks rest = [] then .ok config else .error .malformed
  | .ok _, none => .error .malformed

end Config
end ExprMigration
