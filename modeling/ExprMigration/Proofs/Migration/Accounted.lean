import ExprMigration.Proofs.Migration.Frame
import ExprMigration.Proofs.Migration.Scanned
import ExprMigration.Proofs.Migration.Stale
import ExprMigration.Proofs.Registry.LongestStem
import ExprMigration.Proofs.Substitution.Survival

/-!
# Accounting for every file

The summary of an applied run says of each file of the scan whether it changed, which the run finds by
comparing whole texts, and which of its tokens were left; the rows of the survey say of each token of
the corpus whether it has an expression.  With the built-in catalog the two agree
(`migrate_accountsFor`): a file changed exactly if one of its tokens has an expression
(`Resolver.modernise_fst_ne_iff`), since no expression brings an opening brace that could make up for
the one that is taken away.
-/

namespace ExprMigration

variable {resolver : Resolver} {options : MigrationOptions} {directory : Location} {tree : FileTree}
  {paths : List Text} {race : Nat} {scan : CorpusScan} {rows : List TokenRow} {summary : ChangeSummary}
  {path : Text} {tokens : List Text}

/-! ## Changed texts -/

theorem Resolution.isResolved_iff {resolution : Resolution} :
    resolution.isResolved ↔ resolution ≠ .unresolved := by
  cases resolution <;> simp [Resolution.isResolved, Resolution.value?]

/-- With the built-in catalog, a text changes exactly if one of its tokens has an expression. -/
theorem Resolver.modernise_fst_ne_iff (scope : SecretScope) (t : Text) :
    ((builtin scope).modernise t).1 ≠ t ↔
      ∃ u ∈ Token.tokens t, ((builtin scope).resolveToken u).isResolved := by
  rw [Ne, modernise_builtin_fst_eq_iff]
  simp [isResolved_eq, Option.isSome_iff_ne_none]

/-! ## Rows -/

namespace CorpusScan

/-- The rows of a survey are the tokens of the files, each with what the resolver says about it. -/
theorem mem_describe_iff (h : ofPaths tree directory paths race = .ok scan) {row : TokenRow} :
    row ∈ scan.describe resolver ↔
      (∃ f ∈ scan.files, row.token ∈ f.2) ∧ row.resolution = resolver.resolveToken row.token := by
  rw [describe, List.mem_map, ← mem_tokens_iff h]
  constructor
  · rintro ⟨u, hu, rfl⟩
    exact ⟨hu, rfl⟩
  · rintro ⟨hu, hrow⟩
    exact ⟨row.token, hu, by rw [← hrow]⟩

/-- Of a token in a file, the rows say what the resolver says. -/
theorem mk_mem_describe_iff (h : ofPaths tree directory paths race = .ok scan)
    (hf : (path, tokens) ∈ scan.files) {u : Text} (hu : u ∈ tokens) {resolution : Resolution} :
    ⟨u, resolution⟩ ∈ scan.describe resolver ↔ resolution = resolver.resolveToken u :=
  (mem_describe_iff h).trans (and_iff_right ⟨_, hf, hu⟩)

/-- The rows with a token of one file. -/
theorem exists_row_iff (h : ofPaths tree directory paths race = .ok scan)
    (hf : (path, tokens) ∈ scan.files) (p : Resolution → Prop) :
    (∃ row ∈ scan.describe resolver, row.token ∈ tokens ∧ p row.resolution) ↔
      ∃ u ∈ tokens, p (resolver.resolveToken u) := by
  constructor
  · rintro ⟨⟨u, resolution⟩, hrow, hu, hp⟩
    rw [(mk_mem_describe_iff h hf hu).1 hrow] at hp
    exact ⟨u, hu, hp⟩
  · rintro ⟨u, hu, hp⟩
    exact ⟨⟨u, resolver.resolveToken u⟩, (mk_mem_describe_iff h hf hu).2 rfl, hu, hp⟩

/-- A scan has a path once. -/
theorem tokens_eq_of_mem_files (h : ofPaths tree directory paths race = .ok scan) {tokens' : List Text}
    (hf : (path, tokens) ∈ scan.files) (hf' : (path, tokens') ∈ scan.files) : tokens = tokens' := by
  have hget := (ordered_files h).get?_of_mem hf
  rw [(ordered_files h).get?_of_mem hf'] at hget
  exact (Option.some.inj hget).symm

end CorpusScan

/-! ## Summaries -/

/-- A summary says of the files of a scan what the rows of a survey say of their tokens. -/
structure ChangeSummary.AccountsFor (summary : ChangeSummary) (scan : CorpusScan)
    (rows : List TokenRow) : Prop where
  /-- A file has an entry exactly if one of its tokens is unresolved, and the entry is those tokens,
  in the order of the file. -/
  left : ∀ path tokens, (path, tokens) ∈ scan.files → ∀ left, (path, left) ∈ summary.left ↔
    (∃ row ∈ rows, row.token ∈ tokens ∧ row.resolution = .unresolved) ∧
      left = tokens.filter fun u => ⟨u, .unresolved⟩ ∈ rows
  /-- A file changed exactly if one of its tokens is resolved. -/
  changed : ∀ path tokens, (path, tokens) ∈ scan.files → (path ∈ summary.changed ↔
    ∃ row ∈ rows, row.token ∈ tokens ∧ row.resolution ≠ .unresolved)
  every : ∀ path ∈ scan.files.map Prod.fst,
    path ∈ summary.changed ∨ path ∈ summary.left.map Prod.fst
  /-- No other file changed, and none is listed twice. -/
  changed_sublist : summary.changed.Sublist (scan.files.map Prod.fst)
  left_sublist : (summary.left.map Prod.fst).Sublist (scan.files.map Prod.fst)
  unresolved : ∀ u, (∃ e ∈ summary.left, u ∈ e.2) ↔ ⟨u, .unresolved⟩ ∈ rows

section Applied

variable {after : FileTree} (hscan : CorpusScan.ofPaths tree directory paths race = .ok scan)
  (h : Substituted resolver directory scan.files tree after summary)

include hscan h

/-- What is left of a file are its tokens with an unresolved row. -/
theorem Substituted.left_eq_map : summary.left = (scan.files.map fun f =>
    (f.1, f.2.filter fun u => ⟨u, .unresolved⟩ ∈ scan.describe resolver)).filter
      fun e => e.2 ≠ [] := by
  rw [h.left]
  refine congrArg _ (List.map_congr_left fun f hf => ?_)
  refine congrArg _ (List.filter_congr fun u hu => ?_)
  rw [Bool.eq_iff_iff, Bool.not_eq_true', ← Bool.not_eq_true, Resolution.isResolved_iff,
    decide_eq_true_iff, CorpusScan.mk_mem_describe_iff hscan hf hu]
  exact not_not.trans eq_comm

theorem Substituted.mem_left_iff {left : List Text} : (path, left) ∈ summary.left ↔
    left ≠ [] ∧ ∃ tokens, (path, tokens) ∈ scan.files ∧
      left = tokens.filter fun u => ⟨u, .unresolved⟩ ∈ scan.describe resolver := by
  rw [h.left_eq_map hscan, List.mem_filter, List.mem_map]
  constructor
  · rintro ⟨⟨⟨p, tokens⟩, hf, heq⟩, hne⟩
    cases heq
    exact ⟨of_decide_eq_true hne, tokens, hf, rfl⟩
  · rintro ⟨hne, tokens, hf, rfl⟩
    exact ⟨⟨(path, tokens), hf, rfl⟩, decide_eq_true hne⟩

theorem Substituted.left_iff (hf : (path, tokens) ∈ scan.files) {left : List Text} :
    (path, left) ∈ summary.left ↔
      (∃ row ∈ scan.describe resolver, row.token ∈ tokens ∧ row.resolution = .unresolved) ∧
        left = tokens.filter fun u => ⟨u, .unresolved⟩ ∈ scan.describe resolver := by
  have hne : tokens.filter (fun u => ⟨u, .unresolved⟩ ∈ scan.describe resolver) ≠ [] ↔
      ∃ row ∈ scan.describe resolver, row.token ∈ tokens ∧ row.resolution = .unresolved := by
    rw [Ne, List.filter_eq_nil_iff]
    push Not
    constructor
    · rintro ⟨u, hu, hrow⟩
      exact ⟨_, of_decide_eq_true hrow, hu, rfl⟩
    · rintro ⟨⟨u, resolution⟩, hrow, hu, rfl⟩
      exact ⟨u, hu, decide_eq_true hrow⟩
  rw [h.mem_left_iff hscan, ← hne]
  constructor
  · rintro ⟨hleft, tokens', hf', rfl⟩
    obtain rfl := CorpusScan.tokens_eq_of_mem_files hscan hf hf'
    exact ⟨hleft, rfl⟩
  · rintro ⟨hleft, rfl⟩
    exact ⟨hleft, tokens, hf, rfl⟩

/-- The tokens that are left somewhere are those with an unresolved row. -/
theorem Substituted.exists_mem_left_iff {u : Text} :
    (∃ e ∈ summary.left, u ∈ e.2) ↔ ⟨u, .unresolved⟩ ∈ scan.describe resolver := by
  constructor
  · rintro ⟨⟨path, left⟩, he, hu⟩
    obtain ⟨-, tokens, -, rfl⟩ := (h.mem_left_iff hscan).1 he
    exact of_decide_eq_true (List.mem_filter.1 hu).2
  · intro hrow
    obtain ⟨⟨⟨path, tokens⟩, hf, hu⟩, -⟩ := (CorpusScan.mem_describe_iff hscan).1 hrow
    have hleft : u ∈ tokens.filter fun u => ⟨u, .unresolved⟩ ∈ scan.describe resolver :=
      List.mem_filter.2 ⟨hu, decide_eq_true hrow⟩
    exact ⟨_, (h.mem_left_iff hscan).2 ⟨List.ne_nil_of_mem hleft, tokens, hf, rfl⟩, hleft⟩

theorem Substituted.left_sublist :
    (summary.left.map Prod.fst).Sublist (scan.files.map Prod.fst) := by
  have hsub := (List.filter_sublist (p := fun e : Text × List Text => e.2 ≠ []) (l :=
    scan.files.map fun f =>
      (f.1, f.2.filter fun u => ⟨u, .unresolved⟩ ∈ scan.describe resolver))).map Prod.fst
  rw [← h.left_eq_map hscan, List.map_map] at hsub
  exact hsub

end Applied

/-- With the built-in catalog, a run that succeeds reports a file of its scan as changed exactly if a
row has an expression for one of its tokens. -/
theorem CorpusScan.mem_changed_iff {scope : SecretScope}
    (hscan : ofPaths tree directory paths race = .ok scan)
    (hapart : tree.Apart directory (scan.files.map Prod.fst))
    (h : (scan.apply (.builtin scope) directory tree).result = .ok summary)
    (hf : (path, tokens) ∈ scan.files) : path ∈ summary.changed ↔
      ∃ row ∈ scan.describe (.builtin scope), row.token ∈ tokens ∧ row.resolution ≠ .unresolved := by
  obtain ⟨before, hread, hafter⟩ := (substituted_of_ok hapart h).read _ hf
  obtain ⟨-, -, t, ht, rfl⟩ := mem_files hscan hf
  obtain rfl : t = before := Except.ok.inj (ht.symm.trans hread)
  have hpath : path ∈ scan.files.map Prod.fst := List.mem_map_of_mem hf
  simp only at hread hafter
  rw [exists_row_iff hscan hf (· ≠ .unresolved), changed_of_ok hapart h, List.mem_filter,
    and_iff_right hpath, decide_eq_true_iff, hread, hafter, Ne, Except.ok.injEq]
  simp only [← Resolution.isResolved_iff]
  exact Resolver.modernise_fst_ne_iff scope t

theorem CorpusScan.accountsFor_of_ok {scope : SecretScope}
    (hscan : ofPaths tree directory paths race = .ok scan)
    (hapart : tree.Apart directory (scan.files.map Prod.fst))
    (h : (scan.apply (.builtin scope) directory tree).result = .ok summary) :
    summary.AccountsFor scan (scan.describe (.builtin scope)) := by
  have hsubstituted := substituted_of_ok hapart h
  have hchanged {path : Text} {tokens : List Text} (hf : (path, tokens) ∈ scan.files) :=
    mem_changed_iff hscan hapart h hf
  refine { left := fun _ _ hf _ => hsubstituted.left_iff hscan hf
           changed := fun _ _ hf => hchanged hf
           every := ?every
           changed_sublist := changed_of_ok hapart h ▸ List.filter_sublist
           left_sublist := hsubstituted.left_sublist hscan
           unresolved := fun _ => hsubstituted.exists_mem_left_iff hscan }
  -- a file of the scan holds a token, which is resolved or not
  rw [List.forall_mem_map]
  rintro ⟨path, tokens⟩ hf
  obtain ⟨u, hu⟩ := List.exists_mem_of_ne_nil _ (mem_files hscan hf).2.1
  by_cases hunresolved : (Resolver.builtin scope).resolveToken u = .unresolved
  · have hrow := (exists_row_iff hscan hf (· = .unresolved)).2 ⟨u, hu, hunresolved⟩
    exact .inr (List.mem_map.2 ⟨(path, _), (hsubstituted.left_iff hscan hf).2 ⟨hrow, rfl⟩, rfl⟩)
  · exact .inl ((hchanged hf).2
      ((exists_row_iff hscan hf (· ≠ .unresolved)).2 ⟨u, hu, hunresolved⟩))

/-! ## Whole runs -/

/-- An applied run with the built-in catalog scans the selected files, its rows describe that scan, and
its summary accounts for every file of the scan as the rows say. -/
theorem migrate_accountsFor {scope : SecretScope} {selected : Nat}
    (h : (migrate (.builtin scope) options directory tree race).result =
      .ok (.applied selected scan rows summary)) :
    (∃ paths, options.files tree directory = .ok paths ∧
      CorpusScan.ofPaths tree directory paths race = .ok scan) ∧
    rows = scan.describe (.builtin scope) ∧ summary.AccountsFor scan rows := by
  have hcourse := course_migrate (.builtin scope) options directory tree race
  generalize migrate (.builtin scope) options directory tree race = run at h hcourse
  cases hcourse with
  | unselected => simp at h
  | unscanned => simp at h
  | nothingFound => simp at h
  | dry => simp at h
  | @wet paths scan' hpaths hscan =>
    rcases hrun : (scan'.apply (.builtin scope) directory tree).result with error | summary'
    · simp [hrun, Except.map] at h
    · simp only [hrun, Except.map, Except.ok.injEq, MigrationOutcome.applied.injEq] at h
      obtain ⟨-, rfl, rfl, rfl⟩ := h
      exact ⟨⟨paths, hpaths, hscan⟩, rfl,
        CorpusScan.accountsFor_of_ok hscan (apart_of_ofPaths hpaths hscan) hrun⟩

/-- Two files with a token that has no expression; in the first one there is another that has. -/
def partlyKnown : FileTree :=
  (oneFile "${service.name} ${unknown}".toList).put ["b.yaml".toList]
    (.file (.text "${unknown}".toList))

theorem exists_applied_partlyKnown : ∃ selected scan rows summary,
    (migrate (.builtin .none) yamlBelow [] partlyKnown 0).result =
      .ok (.applied selected scan rows summary) := by
  have happlied : (migrate (.builtin .none) yamlBelow [] partlyKnown 0).result.toOption.any
      (· matches .applied ..) := by
    rw [Resolver.builtin_eq]
    decide +kernel
  generalize (migrate (.builtin .none) yamlBelow [] partlyKnown 0).result = result at happlied ⊢
  rcases result with error | outcome
  · simp [Except.toOption] at happlied
  cases outcome with
  | nothingFound => simp [Except.toOption] at happlied
  | dryRun => simp [Except.toOption] at happlied
  | applied selected scan rows summary => exact ⟨selected, scan, rows, summary, rfl⟩

/-- The first file changes and the second does not, and the unknown token is left in both. -/
theorem migrate_accountsFor_partlyKnown : ∃ selected scan rows summary,
    (migrate (.builtin .none) yamlBelow [] partlyKnown 0).result =
      .ok (.applied selected scan rows summary) ∧
    "./a.yaml".toList ∈ summary.changed ∧ "./b.yaml".toList ∉ summary.changed ∧
    ("./a.yaml".toList, ["${unknown}".toList]) ∈ summary.left ∧
    ("./b.yaml".toList, ["${unknown}".toList]) ∈ summary.left := by
  obtain ⟨selected, scan, rows, summary, hresult⟩ := exists_applied_partlyKnown
  refine ⟨selected, scan, rows, summary, hresult, ?_⟩
  obtain ⟨⟨paths, hpaths, hscan⟩, rfl, haccounts⟩ := migrate_accountsFor hresult
  obtain rfl : ["./a.yaml".toList, "./b.yaml".toList] = paths :=
    Except.ok.inj ((by decide +kernel : yamlBelow.files partlyKnown [] = _).symm.trans hpaths)
  have hfiles : scan.files =
      [("./a.yaml".toList, ["${service.name}".toList, "${unknown}".toList]),
        ("./b.yaml".toList, ["${unknown}".toList])] := by
    refine Option.some.inj (Eq.trans (b := (CorpusScan.ofPaths partlyKnown []
      ["./a.yaml".toList, "./b.yaml".toList] 0).toOption.map (·.files)) ?_ (by decide +kernel))
    rw [hscan]
    rfl
  have hunknown : (Resolver.builtin .none).resolveToken "${unknown}".toList = .unresolved := by
    have hentries : EntryTable.get? Catalog.entries "unknown".toList = none := by decide +kernel
    have hfind : (Catalog.registry .none).find? "unknown".toList = none :=
      Registry.find?_ofFamilies_eq_none_iff.2 (by decide +kernel)
    have hkey : Token.key "${unknown}".toList = "unknown".toList := by decide
    rw [Resolver.builtin_eq, Resolver.resolveToken, hkey, Resolver.resolve, hentries, hfind]
  have hservice : (Resolver.builtin .none).resolveToken "${service.name}".toList ≠ .unresolved := by
    rw [Resolver.builtin_eq]
    decide +kernel
  have ha : ("./a.yaml".toList, ["${service.name}".toList, "${unknown}".toList]) ∈ scan.files :=
    hfiles ▸ List.mem_cons_self
  have hb : ("./b.yaml".toList, ["${unknown}".toList]) ∈ scan.files :=
    hfiles ▸ List.mem_cons_of_mem _ (List.mem_singleton_self _)
  have hnotService : ⟨"${service.name}".toList, .unresolved⟩ ∉ scan.describe (.builtin .none) :=
    fun hmem => hservice ((CorpusScan.mk_mem_describe_iff hscan ha List.mem_cons_self).1 hmem).symm
  have hunresolved : ⟨"${unknown}".toList, .unresolved⟩ ∈ scan.describe (.builtin .none) :=
    (CorpusScan.mk_mem_describe_iff hscan hb (List.mem_singleton_self _)).2 hunknown.symm
  refine ⟨(haccounts.changed _ _ ha).2 ?_, fun hchanged => ?_, (haccounts.left _ _ ha _).2 ?_,
    (haccounts.left _ _ hb _).2 ?_⟩
  · exact (CorpusScan.exists_row_iff hscan ha (· ≠ .unresolved)).2 ⟨_, List.mem_cons_self, hservice⟩
  · obtain ⟨u, hu, hne⟩ := (CorpusScan.exists_row_iff hscan hb (· ≠ .unresolved)).1
      ((haccounts.changed _ _ hb).1 hchanged)
    exact hne (List.mem_singleton.1 hu ▸ hunknown)
  · refine ⟨⟨_, hunresolved, by simp, rfl⟩, ?_⟩
    simp only [List.filter, hnotService, hunresolved, decide_true, decide_false]
  · refine ⟨⟨_, hunresolved, by simp, rfl⟩, ?_⟩
    simp only [List.filter, hunresolved, decide_true]

end ExprMigration
