import ExprMigration.Proofs.CommandLine.Gate
import ExprMigration.Proofs.Migration.Frame

/-!
# Command lines that change nothing

The first write of a command comes after everything that can fail but a write, so that a command line
which fails leaves the tree as it was; so does one that only looks (`tree_answer_eq`).  The files of a
scan are read again between the writes, which cannot fail any more.
-/

namespace ExprMigration
namespace CommandLine

variable {session : Session} {options : TranslateOptions} {config : Config}
  {ignores : List Glob.Pattern} {resolver : Resolver} {command : Command} {error : CommandError}
  {race : Nat}

/-! ## Exit code 2 -/

theorem exitCode_eq_two_iff {result : Except CommandError Completed} :
    exitCode result = 2 ↔ ∃ error, result = .error error := by
  rcases result with error | completed
  · simp [exitCode]
  · simp only [exitCode, reduceCtorEq, exists_false, iff_false]
    split <;> simp

/-! ## Commands that only look -/

/-- A command that only looks: `resolve`, and `translate` where its switch or the configuration makes
it dry. -/
def Session.OnlyLooks (session : Session) : Command → Prop
  | .translate options => options.dryRun = true ∨
      ∃ config, session.configuration options.toLookupOptions = .ok config ∧ config.dryRun = true
  | .resolve _ _ => True
  | .init => False

theorem Session.InForce.dryRun_eq (h : session.InForce options config ignores resolver)
    (hlooks : session.OnlyLooks (.translate options)) : config.dryRun = true := by
  obtain ⟨⟨loaded, hloaded, rfl⟩, _, _, _⟩ := h
  rcases hlooks with hswitch | ⟨loaded', hloaded', hdry⟩
  · simp [withTranslateOptions, hswitch]
  · obtain rfl : loaded = loaded' := Except.ok.inj (hloaded.symm.trans hloaded')
    simp [withTranslateOptions, hdry]

theorem tree_resolve_eq (session : Session) (expressions : List Text) (options : LookupOptions) :
    (session.resolve expressions options).tree = session.tree := by
  rcases hloaded : session.configuration options with error | config
  · simp [Session.resolve, hloaded, Session.failed]
  rcases hresolver : session.resolver config with error | resolver
  · simp [Session.resolve, hloaded, hresolver, Session.failed]
  · simp [Session.resolve, hloaded, hresolver]

theorem tree_run_of_onlyLooks (h : session.OnlyLooks command) :
    (session.run command race).tree = session.tree := by
  cases command with
  | translate options =>
    rcases failed_or_inForce session options race with ⟨error, hfailed⟩ | ⟨config, _, _, hforce⟩
    · simp [Session.run, hfailed, Session.failed]
    · rw [Session.run, hforce.translate_eq, tree_migrate_eq]
      exact tree_migrate_of_dry (hforce.dryRun_eq h)
  | resolve expressions options => exact tree_resolve_eq session expressions options
  | init => exact h.elim

/-! ## Commands that fail -/

theorem tree_init_of_error (h : session.init.result = .error error) :
    session.init.tree = session.tree := by
  by_cases hexists : session.tree.existsAt session.directory Config.fileName
  · simp [Session.init, hexists, Session.failed]
  rcases hwrite : session.tree.write session.directory Config.fileName (.text Config.defaultText)
    with fault | written
  · simp [Session.init, hexists, hwrite, Session.failed]
  · simp [Session.init, hexists, hwrite] at h

theorem tree_run_of_error (hover : session.tree.OverwritesReadable session.directory)
    (h : (session.run command race).result = .error error) :
    (session.run command race).tree = session.tree := by
  cases command with
  | translate options =>
    rcases failed_or_inForce session options race with ⟨_, hfailed⟩ | ⟨config, _, _, hforce⟩
    · simp [Session.run, hfailed, Session.failed]
    · -- only here may something have been written
      rw [Session.run, hforce.translate_eq] at h ⊢
      obtain ⟨cause, hcause⟩ := migrate_error h
      rw [tree_migrate_eq]
      exact tree_migrate_of_error hover hcause
  | resolve expressions options => exact tree_resolve_eq session expressions options
  | init => exact tree_init_of_error h

/-- A command `translate` in force ends with exit code 2 if it cannot select files, or cannot read one
that it selects. -/
theorem exitCode_translate_eq_two (hforce : session.InForce options config ignores resolver)
    (h : ∀ paths,
      (session.migrationOptions config ignores).files session.tree session.directory = .ok paths →
      ∃ path ∈ paths, ∃ fault, session.tree.read session.directory path = .error fault) :
    exitCode (session.translate options race).result = 2 := by
  rw [exitCode_eq_two_iff, hforce.translate_eq]
  rcases hresult : (session.migrate config ignores resolver race).result with error | completed
  · exact ⟨error, rfl⟩
  · obtain ⟨outcome, hrun, _⟩ := migrate_ok hresult
    obtain ⟨paths, hpaths, hread⟩ := exists_read_of_migrate_ok hrun
    obtain ⟨path, hpath, fault, hfault⟩ := h paths hpaths
    obtain ⟨t, ht⟩ := hread path hpath
    simp [ht] at hfault

/-! ## Command lines -/

variable {arguments : List Text}

theorem answer_eq_ended (h : read session.environment arguments = .ok (some command)) :
    session.answer arguments race = .ended (session.run command race) := by
  simp [Session.answer, h]

theorem tree_answer_unchanged (hover : session.tree.OverwritesReadable session.directory)
    (h : (session.answer arguments race).exitCode = 2 ∨
      (∃ stop, session.answer arguments race = .stopped stop) ∨
      ∃ command, read session.environment arguments = .ok (some command) ∧
        session.OnlyLooks command) :
    (session.answer arguments race).tree session.tree = session.tree := by
  rcases hread : read session.environment arguments with stop | _ | command
  · simp [Session.answer, hread, Answer.tree]
  · simp [Session.answer, hread, Answer.tree]
  · rw [answer_eq_ended hread] at h ⊢
    rcases h with hcode | ⟨stop, hstop⟩ | ⟨command', hcommand, hlooks⟩
    · obtain ⟨error, herror⟩ := exitCode_eq_two_iff.1 hcode
      exact tree_run_of_error hover herror
    · cases hstop
    · obtain rfl : command = command' := by simpa [hread] using hcommand
      exact tree_run_of_onlyLooks hlooks

/-- Where a file that can be read can be written over, a command line that ends with exit code 2, is
stopped at its arguments or only looks leaves the tree as it was.  A command `translate` that cannot
walk, or cannot read a selected file, is one of those that end with exit code 2.  Once it has read the
selected files, reading one of them again does not fail. -/
theorem tree_answer_eq (hover : session.tree.OverwritesReadable session.directory)
    (arguments : List Text) (race : Nat) :
    ((session.answer arguments race).exitCode = 2 ∨
        (∃ stop, session.answer arguments race = .stopped stop) ∨
        (∃ command, read session.environment arguments = .ok (some command) ∧
          session.OnlyLooks command) →
      (session.answer arguments race).tree session.tree = session.tree) ∧
    ∀ options config ignores resolver,
      read session.environment arguments = .ok (some (.translate options)) →
      session.InForce options config ignores resolver →
      (∀ cause, (session.migrationOptions config ignores).files session.tree session.directory =
          .error cause →
        (session.answer arguments race).exitCode = 2 ∧
          (session.answer arguments race).tree session.tree = session.tree) ∧
      ∀ paths, (session.migrationOptions config ignores).files session.tree session.directory =
          .ok paths →
        ((∃ path ∈ paths, ∃ fault, session.tree.read session.directory path = .error fault) →
          (session.answer arguments race).exitCode = 2 ∧
            (session.answer arguments race).tree session.tree = session.tree) ∧
        ∀ scan, CorpusScan.ofPaths session.tree session.directory paths race = .ok scan →
          ∀ path fault, (scan.apply resolver session.directory session.tree).result ≠
            .error (.unreadable path fault) := by
  refine ⟨tree_answer_unchanged hover, fun options config ignores resolver hread hforce => ?_⟩
  have hfails (hcode : exitCode (session.translate options race).result = 2) :
      (session.answer arguments race).exitCode = 2 ∧
        (session.answer arguments race).tree session.tree = session.tree := by
    have hanswer : (session.answer arguments race).exitCode = 2 := by
      rw [answer_eq_ended hread]
      exact hcode
    exact ⟨hanswer, tree_answer_unchanged hover (.inl hanswer)⟩
  refine ⟨fun cause hcause => ?_, fun paths hpaths => ⟨fun hunreadable => ?_, ?_⟩⟩
  · exact hfails (exitCode_translate_eq_two hforce fun paths hpaths => by simp [hcause] at hpaths)
  · refine hfails (exitCode_translate_eq_two hforce fun paths' hpaths' => ?_)
    obtain rfl : paths = paths' := Except.ok.inj (hpaths.symm.trans hpaths')
    exact hunreadable
  · exact fun scan hscan => CorpusScan.result_apply_ne_unreadable hpaths hscan

/-- A session over a YAML file of one token and a second one that is no text. -/
def sessionBesideBytes : Session :=
  { sessionOver "${service.name}".toList with
    tree := (oneFile "${service.name}".toList).put ["b.yaml".toList] (.file (.bytes [0xff])) }

/-- The second file keeps the first one from being written. -/
theorem tree_answer_besideBytes :
    (sessionBesideBytes.answer ["translate".toList] 0).exitCode = 2 ∧
    (sessionBesideBytes.answer ["translate".toList] 0).tree sessionBesideBytes.tree =
      sessionBesideBytes.tree := by
  have hover : sessionBesideBytes.tree.OverwritesReadable sessionBesideBytes.directory :=
    FileTree.Grounded.overwritesReadable (by decide +kernel) rfl
  have hread : read sessionBesideBytes.environment ["translate".toList] =
      .ok (some (.translate {})) := by
    decide +kernel
  have hforce : sessionBesideBytes.InForce {} {} [] (.builtin .none) :=
    ⟨⟨{}, by decide +kernel, rfl⟩, by decide +kernel, rfl, rfl⟩
  have hpaths : (sessionBesideBytes.migrationOptions {} []).files sessionBesideBytes.tree
      sessionBesideBytes.directory = .ok ["/./a.yaml".toList, "/./b.yaml".toList] := by
    decide +kernel
  have hbytes : sessionBesideBytes.tree.read sessionBesideBytes.directory "/./b.yaml".toList =
      .error .notText := by
    decide +kernel
  exact (((tree_answer_eq hover _ 0).2 _ _ _ _ hread hforce).2 _ hpaths).1
    ⟨_, by simp, _, hbytes⟩

end CommandLine
end ExprMigration
