import ExprMigration.CommandLine.Run
import ExprMigration.Proofs.Config.Search
import ExprMigration.Proofs.FileTree.Creation
import ExprMigration.Proofs.Json.RoundTrip
import Mathlib.Logic.Function.Basic

/-!
# Configurations as overlays

A record of settings is read as the defaults with the settings of the record in their places
(`Config.readMembers_eq`): the members can stand in any order, and a member with another name does not
count.  A configuration is written as the record of all its settings, so that reading it gives the
configuration back (`Config.parse_render`), and what the command `init` writes is loaded as the defaults.
-/

namespace ExprMigration
namespace Config

/-! ## Overlays -/

/-- The values of a setting. -/
def Setting.Value : Setting → Type
  | .sourceRoot | .fileExtensions => Text
  | .customExpressionsFile => Option Text
  | .dryRun | .failOnUnresolved => Bool
  | .secretScope => SecretScope
  | .ignores => List Text

/-- Whether a JSON value writes a value of a setting.  A scope is written by its name, alone or as the
only member of a record. -/
def Setting.Writes : (setting : Setting) → Json → setting.Value → Prop
  | .sourceRoot, written, value | .fileExtensions, written, value => written = .text value
  | .customExpressionsFile, written, value => written = Option.elim value .null .text
  | .dryRun, written, value | .failOnUnresolved, written, value => written = .bool value
  | .secretScope, written, value => written = .text (scopeName value).toList ∨
      written = .object [(.text (scopeName value).toList, .null)]
  | .ignores, written, value => written = .array (List.map .text value)

/-- Values for some of the settings. -/
abbrev Overlay := (setting : Setting) → Option setting.Value

/-- A configuration with the values of an overlay in the place of its own. -/
def Overlay.over (overlay : Overlay) (config : Config) : Config where
  sourceRoot := (overlay .sourceRoot).getD config.sourceRoot
  fileExtensions := (overlay .fileExtensions).getD config.fileExtensions
  customExpressionsFile := (overlay .customExpressionsFile).getD config.customExpressionsFile
  dryRun := (overlay .dryRun).getD config.dryRun
  secretScope := (overlay .secretScope).getD config.secretScope
  ignores := (overlay .ignores).getD config.ignores
  failOnUnresolved := (overlay .failOnUnresolved).getD config.failOnUnresolved

/-- What the members of a record with the name of a setting hold. -/
def valuesOf (setting : Setting) (members : List (Json × Json)) : List Json :=
  members.filterMap fun (name, value) =>
    match name with
    | .text name => if name = setting.name.toList then some value else none
    | _ => none

/-- A record has one member for each setting that an overlay has a value for, and none for any other
setting. -/
structure Overlay.IsRecord (overlay : Overlay) (members : List (Json × Json)) : Prop where
  names : ∀ m ∈ members, ∃ name, m.1 = .text name
  present : ∀ setting value, overlay setting = some value →
    ∃ written, valuesOf setting members = [written] ∧ setting.Writes written value
  absent : ∀ setting, overlay setting = none → valuesOf setting members = []

variable {config : Config} {overlay : Overlay} {members : List (Json × Json)} {setting : Setting}
  {seen : List Setting}

/-! ## Single settings -/

namespace Setting

/-- A configuration with a value for one setting. -/
def set : (setting : Setting) → setting.Value → Config → Config
  | .sourceRoot, value, config => { config with sourceRoot := value }
  | .fileExtensions, value, config => { config with fileExtensions := value }
  | .customExpressionsFile, value, config => { config with customExpressionsFile := value }
  | .dryRun, value, config => { config with dryRun := value }
  | .secretScope, value, config => { config with secretScope := value }
  | .ignores, value, config => { config with ignores := value }
  | .failOnUnresolved, value, config => { config with failOnUnresolved := value }

theorem readAllTexts_map (values : List Text) : readAllTexts (values.map .text) = .ok values := by
  induction values with
  | nil => rfl
  | cons value values ih => simp [readAllTexts, readText, ih]; rfl

theorem readScopeName_scopeName (scope : SecretScope) :
    readScopeName (scopeName scope).toList = .ok scope := by
  cases scope <;> decide

theorem read_of_writes {written : Json} {value : setting.Value} (h : setting.Writes written value)
    (config : Config) : setting.read written config = .ok (setting.set value config) := by
  cases setting with
  | sourceRoot => cases h; rfl
  | fileExtensions => cases h; rfl
  | customExpressionsFile =>
    obtain rfl : written = Option.elim value .null .text := h
    rcases value with _ | value <;> rfl
  | dryRun => cases h; rfl
  | secretScope =>
    have hscope := readScopeName_scopeName value
    rcases h with rfl | rfl
    · simp [read, readScope, hscope, set, Except.map]
    · simp [read, readScope, hscope, set, Except.map]
  | ignores =>
    have htexts : readAllTexts (List.map .text value) = .ok value := readAllTexts_map value
    obtain rfl : written = .array (List.map .text value) := h
    rw [read, readTexts, htexts]
    rfl
  | failOnUnresolved => cases h; rfl

theorem ofName?_name (setting : Setting) : ofName? setting.name.toList = some setting := by
  cases setting <;> decide

theorem name_of_ofName? {name : Text} (h : ofName? name = some setting) :
    name = setting.name.toList := by
  simpa [eq_comm] using List.find?_some h

end Setting

/-! ## Records -/

theorem valuesOf_cons_name (setting : Setting) (value : Json) (members : List (Json × Json)) :
    valuesOf setting ((.text setting.name.toList, value) :: members) =
      value :: valuesOf setting members := by
  simp [valuesOf]

theorem valuesOf_cons_of_ne {name : Text} (h : name ≠ setting.name.toList) (value : Json)
    (members : List (Json × Json)) :
    valuesOf setting ((.text name, value) :: members) = valuesOf setting members := by
  simp [valuesOf, h]

/-- The overlay of an empty record changes nothing. -/
theorem Overlay.IsRecord.over_eq (h : overlay.IsRecord []) (config : Config) :
    overlay.over config = config := by
  have hnone (setting : Setting) : overlay setting = none := by
    rw [Option.eq_none_iff_forall_ne_some]
    intro value hvalue
    obtain ⟨written, hwritten, -⟩ := h.present setting value hvalue
    simp [valuesOf] at hwritten
  simp only [Overlay.over, hnone]
  rfl

/-- A member with another name does not count. -/
theorem Overlay.IsRecord.of_unknown {name : Text} {value : Json}
    (h : overlay.IsRecord ((.text name, value) :: members)) (hname : Setting.ofName? name = none) :
    overlay.IsRecord members := by
  have hvalues (setting : Setting) :
      valuesOf setting ((.text name, value) :: members) = valuesOf setting members := by
    refine valuesOf_cons_of_ne ?_ value members
    rintro rfl
    simp [Setting.ofName?_name] at hname
  refine ⟨fun m hm => h.names m (List.mem_cons_of_mem _ hm), fun setting v hv => ?_,
    fun setting hv => ?_⟩
  · simpa only [hvalues] using h.present setting v hv
  · simpa only [hvalues] using h.absent setting hv

/-- Behind the member of a setting, the record is one of the other settings. -/
theorem Overlay.IsRecord.of_known {value : Json}
    (h : overlay.IsRecord ((.text setting.name.toList, value) :: members)) :
    ∃ v, overlay setting = some v ∧ setting.Writes value v ∧
      Overlay.IsRecord (Function.update overlay setting none) members := by
  have hhead : valuesOf setting ((.text setting.name.toList, value) :: members) =
      value :: valuesOf setting members := valuesOf_cons_name setting value members
  obtain ⟨v, hv⟩ : ∃ v, overlay setting = some v := by
    rw [← Option.ne_none_iff_exists']
    intro hnone
    simp [h.absent setting hnone] at hhead
  obtain ⟨written, hwritten, hwrites⟩ := h.present setting v hv
  obtain ⟨rfl, hrest⟩ : value = written ∧ valuesOf setting members = [] := by
    simpa using hhead.symm.trans hwritten
  have hothers {other : Setting} (hne : other ≠ setting) :
      valuesOf other ((.text setting.name.toList, value) :: members) = valuesOf other members := by
    refine valuesOf_cons_of_ne (fun hname => hne ?_) value members
    have hother := Setting.ofName?_name other
    rw [← hname, Setting.ofName?_name] at hother
    exact (Option.some.inj hother).symm
  refine ⟨v, hv, hwrites, fun m hm => h.names m (List.mem_cons_of_mem _ hm), fun other w hw => ?_,
    fun other hw => ?_⟩
  · have hne : other ≠ setting := by
      rintro rfl
      simp at hw
    rw [Function.update_of_ne hne] at hw
    simpa only [hothers hne] using h.present other w hw
  · by_cases hne : other = setting
    · exact hne ▸ hrest
    · rw [Function.update_of_ne hne] at hw
      simpa only [hothers hne] using h.absent other hw

/-- A value can be taken from the overlay into the configuration below it. -/
theorem Overlay.over_update {value : setting.Value} (h : overlay setting = some value) :
    Overlay.over (Function.update overlay setting none) (setting.set value config) =
      overlay.over config := by
  cases setting <;> simp [Overlay.over, Setting.set, h] <;> rfl

theorem readMembers_eq (h : overlay.IsRecord members) (hseen : ∀ s ∈ seen, overlay s = none) :
    readMembers config seen members = .ok (overlay.over config) := by
  induction members generalizing config overlay seen with
  | nil => rw [readMembers, h.over_eq]
  | cons m members ih =>
    obtain ⟨name, hname⟩ := h.names m List.mem_cons_self
    obtain ⟨_, value⟩ := m
    obtain rfl : _ = Json.text name := hname
    rcases hsetting : Setting.ofName? name with _ | setting
    · rw [readMembers, hsetting]
      exact ih (h.of_unknown hsetting) hseen
    · obtain rfl := Setting.name_of_ofName? hsetting
      obtain ⟨v, hv, hwrites, hrest⟩ := h.of_known
      have hnew : setting ∉ seen := fun hmem => by simp [hseen setting hmem] at hv
      simp only [readMembers, hsetting, if_neg hnew, Setting.read_of_writes hwrites config]
      rw [ih hrest (List.forall_mem_cons.2 ⟨by simp, fun s hs => ?_⟩), Overlay.over_update hv]
      have hne : s ≠ setting := fun heq => hnew (heq ▸ hs)
      rw [Function.update_of_ne hne]
      exact hseen s hs

/-! ## Texts -/

theorem parse_of_read {t rest : Text} (hread : Json.read t = (.object members, some rest))
    (hrest : Json.skipBlanks rest = []) (h : overlay.IsRecord members) :
    parse t = .ok (overlay.over {}) := by
  have hmembers : ofJson (.object members) = .ok (overlay.over {}) := readMembers_eq h (by simp)
  simp only [parse, hread, hmembers, if_pos hrest]

theorem parse_write (hplain : ∀ m ∈ members, m.2.IsPlain) (h : overlay.IsRecord members) :
    parse (Json.write (.object members)) = .ok (overlay.over {}) :=
  parse_of_read (Json.read_write (.object h.names hplain)) rfl h

/-! ## Written configurations -/

/-- The value of a setting. -/
def get (config : Config) : (setting : Setting) → setting.Value
  | .sourceRoot => config.sourceRoot
  | .fileExtensions => config.fileExtensions
  | .customExpressionsFile => config.customExpressionsFile
  | .dryRun => config.dryRun
  | .secretScope => config.secretScope
  | .ignores => config.ignores
  | .failOnUnresolved => config.failOnUnresolved

theorem exists_toJson (config : Config) : ∃ members, config.toJson = .object members ∧
    (∀ m ∈ members, m.2.IsPlain) ∧
    Overlay.IsRecord (fun setting => some (config.get setting)) members := by
  refine ⟨_, rfl, ?plain, ?names, ?present, by simp⟩
  case plain =>
    have hfile : (config.customExpressionsFile.elim Json.null .text).IsPlain := by
      rcases config.customExpressionsFile with _ | path
      · exact .null
      · exact .text path
    have hignores : (Json.array (config.ignores.map .text)).IsPlain := by
      refine .array fun item hitem => ?_
      obtain ⟨pattern, -, rfl⟩ := List.mem_map.1 hitem
      exact .text pattern
    simp only [List.forall_mem_cons, Json.member, List.not_mem_nil, false_implies, implies_true,
      and_true]
    exact ⟨.text _, .text _, hfile, .bool _, .text _, hignores, .bool _⟩
  case names =>
    simp [Json.member]
  case present =>
    intro setting value hvalue
    obtain rfl := Option.some.inj hvalue
    cases setting with
    | secretScope => exact ⟨_, rfl, .inl rfl⟩
    | _ => exact ⟨_, rfl, rfl⟩

theorem parse_render (config : Config) : parse (render config) = .ok config := by
  obtain ⟨members, hjson, hplain, hrecord⟩ := config.exists_toJson
  rw [render, hjson, parse_write hplain hrecord]
  rfl

/-! ## Loading -/

/-- A configuration file with the written defaults is loaded as the defaults. -/
theorem load_of_defaultText {tree : FileTree} {directory : Location} {start path : Text}
    (hfind : find tree directory start = some path)
    (hread : tree.read directory path = .ok defaultText) :
    load tree directory start = .ok ⟨{}, some path⟩ := by
  have hparse : parse defaultText = .ok {} := parse_render {}
  have hvalid : validate {} = .ok () := by decide +kernel
  simp only [load, hfind, hread, hparse, hvalid]

open CommandLine in
theorem write_of_init {session : Session} {completed : Completed}
    (h : session.init.result = .ok completed) :
    session.tree.existsAt session.directory fileName = false ∧
      session.tree.write session.directory fileName (.text defaultText) = .ok session.init.tree := by
  by_cases hexists : session.tree.existsAt session.directory fileName
  · simp [Session.init, hexists, Session.failed] at h
  · refine ⟨by simpa using hexists, ?_⟩
    rcases hwrite : session.tree.write session.directory fileName (.text defaultText)
      with fault | written
    · simp [Session.init, hexists, hwrite, Session.failed] at h
    · simp [Session.init, hexists, hwrite]

/-- A text whose value is a record is read as the defaults with the settings of the record in their
places, and a record of such settings is read so from the text that it is written as.  So a written
configuration is read back, a file with the written defaults is loaded as the defaults, and so is what
the command `init` writes: by a search from the working directory, and by one from its full path if the
full path of the file leads to an entry. -/
theorem parse_eq_over :
    (∀ (overlay : Overlay) (members : List (Json × Json)) (t rest : Text),
      Json.read t = (.object members, some rest) → Json.skipBlanks rest = [] →
      overlay.IsRecord members → parse t = .ok (overlay.over {})) ∧
    (∀ (overlay : Overlay) (members : List (Json × Json)), (∀ m ∈ members, m.2.IsPlain) →
      overlay.IsRecord members → parse (Json.write (.object members)) = .ok (overlay.over {})) ∧
    (∀ config : Config, parse (render config) = .ok config) ∧
    (∀ (tree : FileTree) (directory : Location) (start path : Text),
      find tree directory start = some path → tree.read directory path = .ok defaultText →
      load tree directory start = .ok ⟨{}, some path⟩) ∧
    ∀ (session : CommandLine.Session) (completed : CommandLine.Completed), session.tree.Grounded →
      session.tree.get? session.directory = some .directory →
      session.init.result = .ok completed →
      load session.init.tree session.directory [] = .ok ⟨{}, some fileName⟩ ∧
      (Holds session.init.tree session.directory session.directoryPath →
        load session.init.tree session.directory session.directoryPath =
          .ok ⟨{}, some (Path.join session.directoryPath fileName)⟩) := by
  refine ⟨fun _ _ _ _ hread hrest h => parse_of_read hread hrest h, fun _ _ => parse_write,
    parse_render, fun _ _ _ _ => load_of_defaultText, ?_⟩
  intro session completed hgrounded hdirectory hinit
  obtain ⟨hexists, hwrite⟩ := write_of_init hinit
  obtain ⟨place, -, hplace, hput, hlocate, hread⟩ :=
    hgrounded.read_of_write hdirectory hexists hwrite
  constructor
  · have hholds : Holds session.init.tree session.directory [] := by
      have hget : session.init.tree.get? place = some (.file (.text defaultText)) := by
        rw [hput, FileTree.get?_put _ _ _ hplace, if_pos rfl]
      show session.init.tree.existsAt session.directory fileName = true
      simp [FileTree.existsAt, hlocate, hget]
    exact load_of_defaultText (find_of_holds hholds) hread
  · intro hholds
    exact load_of_defaultText (find_of_holds hholds)
      (hgrounded.read_from_top hdirectory hexists (by decide) hwrite hholds)

/-- Values for two of the settings. -/
def cautious : Overlay
  | .dryRun => some true
  | .secretScope => some .org
  | _ => none

/-- A record of these values among members with other names. -/
def cautiousMembers : List (Json × Json) :=
  [ Json.member "extra" (.array [.object [], .text ['"']]),
    Json.member "secretScope" (.object [Json.member "org" .null]),
    Json.member "DryRun" .null,
    Json.member "dryRun" (.bool true) ]

theorem isRecord_cautious : cautious.IsRecord cautiousMembers := by
  refine ⟨by simp [cautiousMembers, Json.member], fun setting value hvalue => ?_,
    fun setting hnone => ?_⟩
  · cases setting with
    | dryRun =>
      cases hvalue
      exact ⟨_, rfl, rfl⟩
    | secretScope =>
      cases hvalue
      exact ⟨_, rfl, .inr rfl⟩
    | _ => cases hvalue
  · cases setting with
    | dryRun => cases hnone
    | secretScope => cases hnone
    | _ => rfl

/-- The record is read over the defaults, and an empty directory has the written defaults after `init`,
for a search from its full path as well. -/
theorem parse_eq_over_cautious :
    parse (Json.write (.object cautiousMembers)) = .ok { dryRun := true, secretScope := .org } ∧
    load (CommandLine.Session.init ⟨FileTree.empty, [], [], false⟩).tree [] [] =
      .ok ⟨{}, some fileName⟩ ∧
    load (CommandLine.Session.init ⟨FileTree.empty, [], [], false⟩).tree [] ['/'] =
      .ok ⟨{}, some "/.exprmigrc.json".toList⟩ := by
  obtain ⟨-, hover, -, -, hinit⟩ := parse_eq_over
  have hplain : ∀ m ∈ cautiousMembers, m.2.IsPlain := by
    have hextra : (Json.array [.object [], .text ['"']]).IsPlain := by
      refine .array (List.forall_mem_cons.2 ⟨.object (by simp) (by simp), ?_⟩)
      simpa using Json.IsPlain.text ['"']
    have hscope : (Json.object [Json.member "org" .null]).IsPlain :=
      .object (by simp [Json.member]) (by simpa [Json.member] using Json.IsPlain.null)
    simpa [cautiousMembers, Json.member] using
      ⟨hextra, hscope, Json.IsPlain.null, Json.IsPlain.bool true⟩
  obtain ⟨hfrom, hfull⟩ := hinit ⟨FileTree.empty, [], [], false⟩ ⟨.creation fileName, 0, false⟩
    (by decide +kernel) (by decide +kernel) (by decide +kernel)
  have hexists : (CommandLine.Session.init ⟨FileTree.empty, [], [], false⟩).tree.existsAt []
      "/.exprmigrc.json".toList = true := by decide +kernel
  exact ⟨hover cautious _ hplain isRecord_cautious, hfrom, hfull hexists⟩

example : parse ("\x7b\"extra\": [1e3, \x7b\x7d], \"dryRun\": true,\n " ++
    "\"secretScope\": \"org\", \"DryRun\": null\x7d ").toList =
    .ok { dryRun := true, secretScope := .org } := by decide +kernel

end Config
end ExprMigration
