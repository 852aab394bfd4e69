import ExprMigration.CommandLine.Run
import ExprMigration.Proofs.Migration.Idempotence

/-!
# The gate on unresolved expressions

The exit code of `translate` counts the tokens that were found before the replacement and have no
expression.  If it lets a run pass, every token that was found has been replaced; whether a token is
there afterwards is decided by the replacements, which may have completed one
(`exitCode_translate_eq_zero`).
-/

namespace ExprMigration
namespace CommandLine

variable {session : Session} {options : TranslateOptions} {config : Config}
  {ignores : List Glob.Pattern} {resolver : Resolver} {race : Nat}

/-! ## What is in force -/

/-- The options with which a checked configuration is migrated. -/
def Session.migrationOptions (session : Session) (config : Config) (ignores : List Glob.Pattern) :
    MigrationOptions :=
  { root := Path.join session.directoryPath config.sourceRoot, extensions := config.extensions,
    ignores, dryRun := config.dryRun }

/-- The configuration, the ignore patterns and the resolver of a command `translate`. -/
structure Session.InForce (session : Session) (options : TranslateOptions) (config : Config)
    (ignores : List Glob.Pattern) (resolver : Resolver) : Prop where
  configuration : ∃ loaded, session.configuration options.toLookupOptions = .ok loaded ∧
    config = withTranslateOptions loaded options
  valid : config.validate = .ok ()
  ignores : config.ignorePatterns = .ok ignores
  resolver : session.resolver config = .ok resolver

/-- What is in force is migrated. -/
theorem Session.InForce.translate_eq (h : session.InForce options config ignores resolver) :
    session.translate options race = session.migrate config ignores resolver race := by
  obtain ⟨⟨loaded, hloaded, rfl⟩, hvalid, hignores, hresolver⟩ := h
  simp [Session.translate, hloaded, hvalid, hignores, hresolver]

/-- A command `translate` fails before it looks at any file to migrate, or something is in force. -/
theorem failed_or_inForce (session : Session) (options : TranslateOptions) (race : Nat) :
    (∃ error, session.translate options race = session.failed error) ∨
      ∃ config ignores resolver, session.InForce options config ignores resolver := by
  -- each of the four stages fails the command on its own
  rcases hloaded : session.configuration options.toLookupOptions with error | loaded
  · exact .inl ⟨error, by simp [Session.translate, hloaded]⟩
  rcases hvalid : (withTranslateOptions loaded options).validate with flaw | _
  · exact .inl ⟨.settings flaw, by simp [Session.translate, hloaded, hvalid]⟩
  rcases hignores : (withTranslateOptions loaded options).ignorePatterns with flaw | ignores
  · exact .inl ⟨.settings flaw, by simp [Session.translate, hloaded, hvalid, hignores]⟩
  rcases hresolver : session.resolver (withTranslateOptions loaded options) with error | resolver
  · exact .inl ⟨error, by simp [Session.translate, hloaded, hvalid, hignores, hresolver]⟩
  · exact .inr ⟨_, ignores, resolver, ⟨loaded, hloaded, rfl⟩, hvalid, hignores, hresolver⟩

/-- For a command `translate` that ends without a failure, something is in force. -/
theorem exists_inForce {completed : Completed}
    (h : (session.translate options race).result = .ok completed) :
    ∃ config ignores resolver, session.InForce options config ignores resolver := by
  rcases failed_or_inForce session options race with ⟨error, hfailed⟩ | hforce
  · simp [hfailed, Session.failed] at h
  · exact hforce

/-- A migration leaves the tree that the run over the selected files leaves. -/
theorem tree_migrate_eq : (session.migrate config ignores resolver race).tree =
    (ExprMigration.migrate resolver (session.migrationOptions config ignores) session.directory
      session.tree race).tree := by
  simp only [Session.migrate, Session.migrationOptions]
  split <;> rfl

/-- A migration that ends without a failure, and what it counts. -/
theorem migrate_ok {completed : Completed}
    (h : (session.migrate config ignores resolver race).result = .ok completed) :
    ∃ outcome, (ExprMigration.migrate resolver (session.migrationOptions config ignores)
        session.directory session.tree race).result = .ok outcome ∧
      completed.unresolved = unresolvedCount outcome ∧
      completed.failOnUnresolved = config.failOnUnresolved ∧
      (session.migrate config ignores resolver race).tree = (ExprMigration.migrate resolver
        (session.migrationOptions config ignores) session.directory session.tree race).tree := by
  rcases hrun : (ExprMigration.migrate resolver (session.migrationOptions config ignores)
    session.directory session.tree race).result with error | outcome
  · simp only [Session.migrationOptions] at hrun
    simp [Session.migrate, hrun] at h
  · simp only [Session.migrationOptions] at hrun
    simp only [Session.migrate, hrun, Except.ok.injEq] at h
    subst h
    exact ⟨outcome, rfl, rfl, rfl, tree_migrate_eq⟩

/-- A migration fails only if the run over the selected files does. -/
theorem migrate_error {error : CommandError}
    (h : (session.migrate config ignores resolver race).result = .error error) :
    ∃ cause, (ExprMigration.migrate resolver (session.migrationOptions config ignores)
      session.directory session.tree race).result = .error cause := by
  rcases hrun : (ExprMigration.migrate resolver (session.migrationOptions config ignores)
    session.directory session.tree race).result with cause | outcome
  · exact ⟨cause, rfl⟩
  · simp only [Session.migrationOptions] at hrun
    simp [Session.migrate, hrun] at h

/-! ## The exit code -/

theorem exitCode_eq_zero {result : Except CommandError Completed} (h : exitCode result = 0) :
    ∃ completed, result = .ok completed ∧
      (completed.failOnUnresolved → completed.unresolved = 0) := by
  rcases result with error | completed
  · simp [exitCode] at h
  · refine ⟨completed, rfl, fun hfail => ?_⟩
    simp only [exitCode, hfail, true_and] at h
    split at h
    · simp at h
    · omega

/-- What a run that is not dry left is what its summary counts. -/
theorem unresolvedCount_eq {outcome : MigrationOutcome}
    (h : ∀ selected scan rows, outcome ≠ .dryRun selected scan rows) :
    unresolvedCount outcome = outcome.summary.leftCount := by
  cases outcome with
  | nothingFound selected => rfl
  | dryRun selected scan rows => exact absurd rfl (h selected scan rows)
  | applied selected scan rows summary => rfl

/-- After a run that replaced every token it found, no selected file holds a token exactly if the
substitution in each of them kept up. -/
theorem tokens_eq_nil_iff {directory : Location} {tree after : FileTree} {paths : List Text}
    {summary : ChangeSummary} {selection : Selection}
    (hpaths : selection.files tree directory = .ok paths)
    (h : Migrated resolver directory paths tree after summary) (hcount : summary.leftCount = 0) :
    (∀ path ∈ paths, ∀ t, after.read directory path = .ok t → Token.tokens t = []) ↔
      selection.KeepsUp resolver directory tree := by
  rw [Selection.keepsUp_iff hpaths]
  refine forall₂_congr fun path hpath => ?_
  obtain ⟨before, hread, hafter⟩ := h.read path hpath
  have hresolved := h.leftCount.1 hcount path hpath before hread
  have hiff := Resolver.tokens_substitute_eq_nil_iff
    (fun w hw => Token.isToken_of_mem_tokens hw) (fun w hw => hw) hresolved
  constructor
  · intro hall t ht
    obtain rfl : before = t := Except.ok.inj (hread.symm.trans ht)
    exact hiff.1 (hall _ hafter)
  · intro hall t ht
    obtain rfl : (resolver.modernise before).1 = t := Except.ok.inj (hafter.symm.trans ht)
    exact hiff.2 (hall before hread)

/-- If a command `translate` ends with exit code 0, is not dry and has to fail on unresolved
expressions, then every selected file can be read afterwards, and none of them holds a token exactly if
the substitution in each of them kept up. -/
theorem exitCode_translate_eq_zero (h : exitCode (session.translate options race).result = 0) :
    (∃ config ignores resolver, session.InForce options config ignores resolver) ∧
    ∀ config ignores resolver, session.InForce options config ignores resolver →
      config.dryRun = false → config.failOnUnresolved = true →
      ∃ paths, (session.migrationOptions config ignores).files session.tree session.directory =
          .ok paths ∧
        (∀ path ∈ paths, ∃ t,
          (session.translate options race).tree.read session.directory path = .ok t) ∧
        ((∀ path ∈ paths, ∀ t,
            (session.translate options race).tree.read session.directory path = .ok t →
            Token.tokens t = []) ↔
          (session.migrationOptions config ignores).KeepsUp resolver session.directory
            session.tree) := by
  obtain ⟨completed, hcompleted, hcount⟩ := exitCode_eq_zero h
  refine ⟨exists_inForce hcompleted, fun config ignores resolver hforce hwet hfail => ?_⟩
  rw [hforce.translate_eq] at hcompleted ⊢
  obtain ⟨outcome, hrun, hunresolved, hfailEq, htree⟩ := migrate_ok hcompleted
  have hoptions : (session.migrationOptions config ignores).dryRun = false := hwet
  obtain ⟨_, _, _, _, _, _, hnotDry⟩ := ExprMigration.migrate_ok hoptions hrun
  obtain ⟨paths, hpaths, hmigrated⟩ := migrated_of_ok hoptions hrun
  -- the count that the exit code looks at is the count of the summary
  have hzero : outcome.summary.leftCount = 0 := by
    rw [← unresolvedCount_eq hnotDry, ← hunresolved]
    exact hcount (by rw [hfailEq, hfail])
  rw [htree]
  refine ⟨paths, hpaths, fun path hpath => ?_, tokens_eq_nil_iff hpaths hmigrated hzero⟩
  obtain ⟨before, _, hafter⟩ := hmigrated.read path hpath
  exact ⟨_, hafter⟩

/-- A session over one YAML file in the working directory. -/
def sessionOver (t : Text) : Session :=
  { tree := oneFile t, directory := [], environment := [], colour := false }

/-- The switch that makes a command fail on unresolved expressions. -/
def failing : TranslateOptions := { failOnUnresolved := true }

/-- A file of one token, which is gone afterwards. -/
theorem exitCode_translate_service : ∃ paths,
    ((sessionOver "${service.name}".toList).migrationOptions { failOnUnresolved := true } []).files
      (oneFile "${service.name}".toList) [] = .ok paths ∧
    ∀ path ∈ paths, ∀ t,
      ((sessionOver "${service.name}".toList).translate failing 0).tree.read [] path = .ok t →
      Token.tokens t = [] := by
  have hforce : (sessionOver "${service.name}".toList).InForce failing
      { failOnUnresolved := true } [] (.builtin .none) := by
    exact ⟨⟨{}, by decide +kernel, rfl⟩, by decide +kernel, rfl, rfl⟩
  have hkeeps : ((sessionOver "${service.name}".toList).migrationOptions
      { failOnUnresolved := true } []).KeepsUp (.builtin .none) []
      (oneFile "${service.name}".toList) := by
    rw [Resolver.builtin_eq]
    decide +kernel
  have hcode : exitCode ((sessionOver "${service.name}".toList).translate failing 0).result = 0 := by
    decide +kernel
  obtain ⟨paths, hpaths, _, hiff⟩ :=
    (exitCode_translate_eq_zero hcode).2 _ _ _ hforce rfl rfl
  exact ⟨paths, hpaths, hiff.2 hkeeps⟩

/-- A secret whose name is itself a token: the exit code is 0, and a token is there afterwards. -/
theorem exitCode_translate_nested :
    exitCode ((sessionOver "${secrets.getValue(${service.name})}".toList).translate
      failing 0).result = 0 ∧
    ((sessionOver "${secrets.getValue(${service.name})}".toList).migrationOptions
      { failOnUnresolved := true } []).files
        (oneFile "${secrets.getValue(${service.name})}".toList) [] = .ok ["/./a.yaml".toList] ∧
    ((sessionOver "${secrets.getValue(${service.name})}".toList).translate
      failing 0).tree.read [] "/./a.yaml".toList =
        .ok "${secrets.getValue(<+service.name>)}".toList ∧
    Token.tokens "${secrets.getValue(<+service.name>)}".toList =
      ["${secrets.getValue(<+service.name>)}".toList] := by
  refine ⟨?_, ?_, ?_, ?_⟩ <;> decide +kernel

end CommandLine
end ExprMigration
