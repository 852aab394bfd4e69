import ExprMigration.Proofs.Migration.Applied
import ExprMigration.Proofs.Substitution.Completion

/-!
# Migrating twice

A second run with the same options selects the same files, reads what the first run left in them, and
succeeds if the first one did (`exists_migrated_twice`).  With the built-in catalog it changes nothing
exactly if the substitution in each selected file kept up (`migrate_migrate_iff`).  A secret whose
name is itself a token is a case in which it does not (`migrate_migrate_nested`).
-/

namespace ExprMigration

variable {resolver : Resolver} {directory : Location} {tree after : FileTree} {paths : List Text}
  {race race' : Nat} {summary : ChangeSummary} {options : MigrationOptions} {outcome : MigrationOutcome}

/-! ## Selected files that keep up -/

/-- In each selected file that can be read, the substitution of its tokens keeps up. -/
def Selection.KeepsUp (selection : Selection) (resolver : Resolver) (directory : Location)
    (tree : FileTree) : Prop :=
  ∀ paths ∈ (selection.files tree directory).toOption, ∀ path ∈ paths,
    ∀ t ∈ (tree.read directory path).toOption, resolver.KeepsUp (Token.tokens t) t

instance (selection : Selection) (resolver : Resolver) (directory : Location) (tree : FileTree) :
    Decidable (selection.KeepsUp resolver directory tree) :=
  inferInstanceAs (Decidable (∀ paths ∈ (selection.files tree directory).toOption, ∀ path ∈ paths,
    ∀ t ∈ (tree.read directory path).toOption, resolver.KeepsUp (Token.tokens t) t))

theorem mem_toOption {ε α : Type} {result : Except ε α} {a : α} :
    a ∈ result.toOption ↔ result = .ok a := by
  cases result <;> simp [Except.toOption]

theorem Selection.keepsUp_iff {selection : Selection}
    (hpaths : selection.files tree directory = .ok paths) :
    selection.KeepsUp resolver directory tree ↔ ∀ path ∈ paths, ∀ t,
      tree.read directory path = .ok t → resolver.KeepsUp (Token.tokens t) t := by
  simp only [Selection.KeepsUp, mem_toOption, hpaths, Except.ok.injEq, forall_eq']

/-! ## The second run -/

/-- A run leaves the tree as it was exactly if no text of a selected file is new. -/
theorem Migrated.tree_eq_iff (h : Migrated resolver directory paths tree after summary) :
    after = tree ↔ ∀ path ∈ paths, ∀ before, tree.read directory path = .ok before →
      (resolver.modernise before).1 = before := by
  refine ⟨fun heq path hpath before hread => ?_, h.idle⟩
  obtain ⟨before', hread', hafter⟩ := h.read path hpath
  obtain rfl : before = before' := by simpa using hread.symm.trans hread'
  rw [heq, hread] at hafter
  exact (Except.ok.inj hafter).symm

/-- After a run that succeeds, a second one goes over the same paths and succeeds too. -/
theorem exists_migrated_twice (hwet : options.dryRun = false)
    (h : (migrate resolver options directory tree race).result = .ok outcome) :
    ∃ paths again, options.files tree directory = .ok paths ∧
      Migrated resolver directory paths tree (migrate resolver options directory tree race).tree
        outcome.summary ∧
      (migrate resolver options directory
        (migrate resolver options directory tree race).tree race').result = .ok again ∧
      Migrated resolver directory paths (migrate resolver options directory tree race).tree
        (migrate resolver options directory
          (migrate resolver options directory tree race).tree race').tree
        again.summary := by
  obtain ⟨paths, hpaths, hfirst⟩ := migrated_of_ok hwet h
  have hpathsAgain : options.files (migrate resolver options directory tree race).tree directory =
      .ok paths := (Selection.files_of_shape hfirst.shape).trans hpaths
  obtain ⟨again, hagain⟩ : ∃ again, (migrate resolver options directory
      (migrate resolver options directory tree race).tree race').result = .ok again := by
    refine exists_migrate hwet hpathsAgain (fun path hpath => ?_) fun path hpath t ht hne => ?_
    · obtain ⟨before, _, hafter⟩ := hfirst.read path hpath
      exact ⟨_, hafter⟩
    · -- a file that holds a token now held one before and was written then
      obtain ⟨before, hread, hafter⟩ := hfirst.read path hpath
      have hbefore : Token.tokens before ≠ [] := by
        intro hnil
        rw [modernise_of_tokens_nil hnil, ht] at hafter
        exact hne (Except.ok.inj hafter ▸ hnil)
      obtain ⟨_, hw⟩ := hfirst.writable path hpath before hread hbefore
      exact FileTree.write_of_shape hfirst.shape.symm hw
  -- the shape is kept, so both runs go over the same paths
  obtain ⟨paths', hpaths', hsecond⟩ := migrated_of_ok hwet hagain
  obtain rfl : paths = paths' := Except.ok.inj (hpathsAgain.symm.trans hpaths')
  exact ⟨paths, again, hpaths, hfirst, hagain, hsecond⟩

/-- With the built-in catalog, every text after the first run stays exactly if every substitution of
the first run kept up. -/
theorem Migrated.modernise_iff {scope : SecretScope} {selection : Selection}
    (hpaths : selection.files tree directory = .ok paths)
    (h : Migrated (.builtin scope) directory paths tree after summary) :
    (∀ path ∈ paths, ∀ t, after.read directory path = .ok t →
      ((Resolver.builtin scope).modernise t).1 = t) ↔
    selection.KeepsUp (.builtin scope) directory tree := by
  rw [Selection.keepsUp_iff hpaths]
  refine forall₂_congr fun path hpath => ?_
  obtain ⟨before, hread, hafter⟩ := h.read path hpath
  constructor
  · intro hall t ht
    obtain rfl : before = t := Except.ok.inj (hread.symm.trans ht)
    exact (Resolver.modernise_modernise_iff scope before).1 (hall _ hafter)
  · intro hall t ht
    obtain rfl : ((Resolver.builtin scope).modernise before).1 = t :=
      Except.ok.inj (hafter.symm.trans ht)
    exact (Resolver.modernise_modernise_iff scope before).2 (hall before hread)

/-- The second run leaves the tree as it is exactly if every substitution of the first one kept
up. -/
theorem tree_migrate_migrate_iff {scope : SecretScope} (hwet : options.dryRun = false)
    (h : (migrate (.builtin scope) options directory tree race).result = .ok outcome) :
    (migrate (.builtin scope) options directory
        (migrate (.builtin scope) options directory tree race).tree race').tree =
      (migrate (.builtin scope) options directory tree race).tree ↔
    options.KeepsUp (.builtin scope) directory tree := by
  obtain ⟨paths, again, hpaths, hfirst, _, hsecond⟩ := exists_migrated_twice hwet h
  exact hsecond.tree_eq_iff.trans (hfirst.modernise_iff hpaths)

/-- After a run with the built-in catalog that succeeds and is not dry, a second one with the same
options succeeds.  It reports no changed file, and leaves every file as it is, exactly if every
substitution of the first run kept up. -/
theorem migrate_migrate_iff {scope : SecretScope} (hwet : options.dryRun = false)
    (h : ∃ outcome, (migrate (.builtin scope) options directory tree race).result = .ok outcome) :
    ∃ again, (migrate (.builtin scope) options directory
        (migrate (.builtin scope) options directory tree race).tree race').result = .ok again ∧
      (again.summary.changed = [] ↔ options.KeepsUp (.builtin scope) directory tree) ∧
      ((migrate (.builtin scope) options directory
          (migrate (.builtin scope) options directory tree race).tree race').tree =
        (migrate (.builtin scope) options directory tree race).tree ↔
      options.KeepsUp (.builtin scope) directory tree) := by
  obtain ⟨outcome, h⟩ := h
  obtain ⟨paths, again, hpaths, hfirst, hagain, hsecond⟩ := exists_migrated_twice hwet h
  refine ⟨again, hagain, ?_, tree_migrate_migrate_iff hwet h⟩
  exact hsecond.changed.trans (hfirst.modernise_iff hpaths)

/-- A file in which the substitution keeps up. -/
theorem migrate_migrate_service :
    (migrate (.builtin .none) yamlBelow [] (migrate (.builtin .none) yamlBelow []
        (oneFile "${service.name}".toList) 0).tree 0).tree =
      (migrate (.builtin .none) yamlBelow [] (oneFile "${service.name}".toList) 0).tree := by
  have hkeeps : yamlBelow.KeepsUp (.builtin .none) [] (oneFile "${service.name}".toList) := by
    rw [Resolver.builtin_eq]
    decide +kernel
  have hok : ∃ outcome, (migrate (.builtin .none) yamlBelow []
      (oneFile "${service.name}".toList) 0).result = .ok outcome :=
    exists_of_isOk (by rw [Resolver.builtin_eq]; decide +kernel)
  obtain ⟨_, _, _, htree⟩ := migrate_migrate_iff rfl hok
  exact htree.2 hkeeps

/-- A file with a secret whose name is itself a token: the first run puts the name in, the second
one the secret. -/
theorem migrate_migrate_nested :
    (migrate (.builtin .none) yamlBelow []
        (oneFile "${secrets.getValue(${service.name})}".toList) 0).result.toBool ∧
    (migrate (.builtin .none) yamlBelow [] (migrate (.builtin .none) yamlBelow []
        (oneFile "${secrets.getValue(${service.name})}".toList) 0).tree 0).tree ≠
      (migrate (.builtin .none) yamlBelow []
        (oneFile "${secrets.getValue(${service.name})}".toList) 0).tree := by
  have hok : (migrate (.builtin .none) yamlBelow []
      (oneFile "${secrets.getValue(${service.name})}".toList) 0).result.toBool := by
    rw [Resolver.builtin_eq]
    decide +kernel
  have hbehind : ¬ yamlBelow.KeepsUp (.builtin .none) []
      (oneFile "${secrets.getValue(${service.name})}".toList) := by
    rw [Resolver.builtin_eq]
    decide +kernel
  obtain ⟨outcome, houtcome⟩ := exists_of_isOk hok
  exact ⟨hok, fun heq => hbehind ((tree_migrate_migrate_iff rfl houtcome).1 heq)⟩

end ExprMigration
