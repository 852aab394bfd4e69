import ExprMigration.Proofs.CommandLine.Gate
import ExprMigration.Proofs.Migration.Counting
import ExprMigration.Proofs.Migration.Frame

/-!
# Dry runs

A dry run fails where the run that writes fails, finds what that finds, and describes it in the same
rows.  It counts each token without an expression once and the other run once for each file that
holds it, so that the counts differ, but not in whether they are zero: both commands end with the same
exit code (`dryRun_foretells`).

Each of the two runs reads all its files at the same time.  The outcome of this race matters only where
several of them cannot be read.  Then each run fails with the failure of one of them, which is the same
one if the outcomes are the same (`Foretells Eq`), and may be another otherwise (`Selection.Rivals`).
-/

namespace ExprMigration

variable {resolver : Resolver} {options : MigrationOptions} {directory : Location} {tree : FileTree}
  {race race' : Nat}

/-! ## Races -/

namespace CommandLine

/-! ## Commands -/

variable {session : Session} {options : TranslateOptions} {config : Config}
  {ignores : List Glob.Pattern} {resolver : Resolver}

/-- The switch for a dry run changes nothing else that is in force. -/
theorem Session.InForce.dryRun (h : session.InForce options config ignores resolver) :
    ∃ configured : Bool, ∀ dry, session.InForce { options with dryRun := dry }
      { config with dryRun := configured || dry } ignores resolver := by
  obtain ⟨⟨loaded, hloaded, rfl⟩, hvalid, hignores, hresolver⟩ := h
  exact ⟨loaded.dryRun, fun dry => ⟨⟨loaded, hloaded, rfl⟩, hvalid, hignores, hresolver⟩⟩

/-- If two files cannot be read, the outcome of the race decides which of them is named. -/
example :
    let tree := (FileTree.empty.put ["a.yaml".toList] (.file (.bytes [0xff]))).put ["b.yaml".toList]
      (.file (.bytes [0xff]))
    (ExprMigration.migrate (.builtin .none) yamlBelow [] tree 0).result =
        .error (.unreadable "./a.yaml".toList .notText) ∧
      (ExprMigration.migrate (.builtin .none) yamlBelow [] tree 1).result =
        .error (.unreadable "./b.yaml".toList .notText) := by
  decide +kernel

end CommandLine
end ExprMigration
