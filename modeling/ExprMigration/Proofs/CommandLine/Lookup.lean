import ExprMigration.CommandLine.Run
import ExprMigration.Proofs.FileTree.Grounded
import ExprMigration.Proofs.Migration.Accounted
import ExprMigration.Proofs.Resolver.Secrets
import ExprMigration.Proofs.Text.Trim

/-!
# One resolution for a token

A token can be looked up as it stands or by its key alone, it is described in a survey, and it is
substituted in files.  Nothing of a token or of its key is trimmed (`Token.IsToken.trim_eq`,
`Token.IsToken.trim_key`), a key is its own key (`Token.IsToken.key_key`), and a token is the only token
of itself (`Token.IsToken.tokens_eq`).  So all of this says the same about it.
-/

namespace ExprMigration

/-! ## Tokens and their keys -/

namespace Token

variable {t : Text}

theorem isBlank_of_isBodyChar {c : Char} (h : isBodyChar c) : Text.isBlank c = false := by
  by_cases hc : c.isAlphanum
  · have hrange : ((0x41 ≤ c.toNat ∧ c.toNat ≤ 0x5A) ∨ 0x61 ≤ c.toNat ∧ c.toNat ≤ 0x7A) ∨
        0x30 ≤ c.toNat ∧ c.toNat ≤ 0x39 := by
      simpa [Char.isAlphanum, Char.isAlpha, Char.isUpper, Char.isLower, Char.isDigit,
        UInt32.le_iff_toNat_le] using hc
    exact Text.isBlank_of_printable (by omega)
  · simp only [isBodyChar, hc, Bool.false_or, Bool.or_eq_true, beq_iff_eq] at h
    rcases h with ((((rfl | rfl) | rfl) | rfl) | rfl) | rfl <;> rfl

theorem IsEnclosed.trim_eq (h : IsEnclosed t) : Text.trim t = t := by
  obtain ⟨inner, -, rfl⟩ := h
  exact Text.trim_eq_self (c := '$') (d := closing) rfl rfl rfl (by simp)

/-- The key of a token begins and ends with characters of a body. -/
theorem IsToken.exists_ends (h : IsToken t) : ∃ c d, (key t).head? = some c ∧
    (key t).getLast? = some d ∧ isBodyChar c ∧ isBodyChar d := by
  rcases h with ⟨body, hne, hbody, rfl⟩ | ⟨argument, -, -, rfl⟩
  · rw [key_enclosed]
    exact ⟨body.head hne, body.getLast hne, List.head?_eq_some_head hne,
      List.getLast?_eq_some_getLast hne, hbody _ (List.head_mem hne),
      hbody _ (List.getLast_mem hne)⟩
  · rw [key_secret]
    exact ⟨'s', ')', rfl, by simp, by decide, by decide⟩

theorem IsToken.trim_key (h : IsToken t) : Text.trim (key t) = key t := by
  obtain ⟨c, d, hhead, hlast, hc, hd⟩ := h.exists_ends
  exact Text.trim_eq_self (isBlank_of_isBodyChar hc) (isBlank_of_isBodyChar hd) hhead hlast

/-- A key has no opening to be taken off. -/
theorem IsToken.key_key (h : IsToken t) : key (key t) = key t := by
  obtain ⟨c, -, hhead, -, hc, -⟩ := h.exists_ends
  have hlead : Text.afterLead? opening (key t) = none := by
    rw [Option.eq_none_iff_forall_ne_some]
    intro rest hrest
    rw [Text.afterLead?_eq_some_iff.1 hrest] at hhead
    obtain rfl : '$' = c := by simpa [opening] using hhead
    exact absurd hc (by decide)
  rw [key, hlead]

theorem IsToken.tokens_eq (h : IsToken t) : tokens t = [t] := by
  have hpieces : pieces t = [.token t] := by simpa using pieces_append h []
  have hmem (u : Text) : u ∈ tokens t ↔ u ∈ [t] := by
    rw [← token_mem_pieces_iff_mem_tokens, hpieces]
    simp
  exact List.perm_singleton.1
    ((List.perm_ext_iff_of_nodup (nodup_tokens t) (List.nodup_singleton t)).2 hmem)

end Token

theorem Resolver.modernise_token {t : Text} (h : Token.IsToken t) (resolver : Resolver) :
    (resolver.modernise t).1 = (resolver.current? t).getD t := by
  rw [modernise, h.tokens_eq, substitute_fst_cons]
  rcases hcurrent : resolver.current? t with _ | value
  · rw [replaceOne_none hcurrent]
    rfl
  · have hpieces : Token.pieces t = [.token t] := by simpa using Token.pieces_append h []
    rw [replaceOne_some hcurrent, Token.replaceAll_eq_textOf h, hpieces]
    simp [Token.Piece.insert, Token.Piece.only_self, substitute, Token.Piece.textOf]

/-! ## Runs over a file of one token -/

section Migrate

variable {resolver : Resolver} {options : MigrationOptions} {directory : Location} {tree : FileTree}
  {paths : List Text} {race : Nat} {path t : Text}

/-- A run that is not dry is over some selected paths, and nothing of what it has to read and to write
is in its way. -/
structure MigrationOptions.Clear (options : MigrationOptions) (directory : Location)
    (tree : FileTree) (paths : List Text) : Prop where
  wet : options.dryRun = false
  files : options.files tree directory = .ok paths
  readable : ∀ path ∈ paths, ∃ t, tree.read directory path = .ok t
  writable : ∀ path ∈ paths, ∀ t, tree.read directory path = .ok t → Token.tokens t ≠ [] →
    tree.Writable directory path

/-- Such a run is applied if one of the files holds a token. -/
theorem MigrationOptions.Clear.exists_applied (h : options.Clear directory tree paths)
    (resolver : Resolver) (race : Nat) (hpath : path ∈ paths)
    (hread : tree.read directory path = .ok t) (hne : Token.tokens t ≠ []) :
    ∃ scan summary, CorpusScan.ofPaths tree directory paths race = .ok scan ∧
      (path, Token.tokens t) ∈ scan.files ∧
      (scan.apply resolver directory tree).result = .ok summary ∧
      (migrate resolver options directory tree race).tree = (scan.apply resolver directory tree).tree ∧
      (migrate resolver options directory tree race).result =
        .ok (.applied paths.length scan (scan.describe resolver) summary) := by
  obtain ⟨outcome, houtcome⟩ : ∃ outcome,
      (migrate resolver options directory tree race).result = .ok outcome :=
    exists_migrate h.wet h.files h.readable h.writable
  have hcourse := course_migrate resolver options directory tree race
  generalize migrate resolver options directory tree race = run at houtcome hcourse ⊢
  have hmem {scan : CorpusScan} (hscan : CorpusScan.ofPaths tree directory paths race = .ok scan) :
      (path, Token.tokens t) ∈ scan.files :=
    (CorpusScan.mem_files_of_ofPaths (Selection.pairwise_not_same h.files) hscan).2
      ⟨hpath, hne, t, hread, rfl⟩
  cases hcourse with
  | unselected => simp at houtcome
  | unscanned => simp at houtcome
  | @nothingFound paths' scan hpaths hscan hempty =>
    obtain rfl : paths = paths' := Except.ok.inj (h.files.symm.trans hpaths)
    have hfile := hmem hscan
    simp [hempty] at hfile
  | dry _ _ _ hdry => simp [h.wet] at hdry
  | @wet paths' scan hpaths hscan =>
    obtain rfl : paths = paths' := Except.ok.inj (h.files.symm.trans hpaths)
    rcases hrun : (scan.apply resolver directory tree).result with error | summary
    · simp [hrun, Except.map] at houtcome
    · exact ⟨scan, summary, hscan, hmem hscan, hrun, rfl, rfl⟩

/-- A run over a file of one token, which describes the token and substitutes it. -/
theorem MigrationOptions.Clear.exists_applied_token (h : options.Clear directory tree paths)
    (resolver : Resolver) (race : Nat) (hpath : path ∈ paths) (ht : Token.IsToken t)
    (hread : tree.read directory path = .ok t) :
    ∃ selected scan summary, (migrate resolver options directory tree race).result =
        .ok (.applied selected scan (scan.describe resolver) summary) ∧ t ∈ scan.tokens ∧
      (migrate resolver options directory tree race).tree.read directory path =
        .ok ((resolver.current? t).getD t) ∧
      (∀ left, (path, left) ∈ summary.left ↔ resolver.current? t = none ∧ left = [t]) ∧
      (path ∈ summary.changed ↔ (resolver.current? t).getD t ≠ t) := by
  have htokens : Token.tokens t = [t] := ht.tokens_eq
  obtain ⟨scan, summary, hscan, hfile, hrun, htree, hresult⟩ :=
    h.exists_applied resolver race hpath hread (by simp [htokens])
  have hapart := apart_of_ofPaths h.files hscan
  have hsubstituted := substituted_of_ok hapart hrun
  rw [htokens] at hfile
  have hafter : (scan.apply resolver directory tree).tree.read directory path =
      .ok ((resolver.current? t).getD t) := by
    obtain ⟨before, hbefore, hafter⟩ := hsubstituted.read _ hfile
    obtain rfl : t = before := Except.ok.inj (hread.symm.trans hbefore)
    rw [← Resolver.modernise_token ht, Resolver.modernise, htokens]
    exact hafter
  refine ⟨_, scan, summary, hresult, (CorpusScan.mem_tokens_iff hscan).2 ⟨_, hfile, by simp⟩,
    htree ▸ hafter, fun left => ?left, ?changed⟩
  case left =>
    rw [hsubstituted.left_iff hscan hfile, Resolver.current?_eq_none_iff,
      CorpusScan.exists_row_iff hscan hfile (· = .unresolved)]
    simp only [List.mem_singleton, exists_eq_left]
    refine and_congr_right fun hunresolved => ?_
    have hrow : ⟨t, .unresolved⟩ ∈ scan.describe resolver :=
      (CorpusScan.mk_mem_describe_iff hscan hfile (by simp)).2 hunresolved.symm
    rw [List.filter_singleton, decide_eq_true hrow, cond_true]
  case changed =>
    rw [changed_of_ok hapart hrun, List.mem_filter,
      and_iff_right (List.mem_map.2 ⟨_, hfile, rfl⟩), decide_eq_true_iff]
    rw [CorpusScan.apply] at hafter
    simp [hafter, hread]

end Migrate

/-! ## One resolution -/

namespace CommandLine

/-- Whichever way a token of a text comes to a resolver, it has one resolution. -/
structure Agrees (resolver : Resolver) (text t : Text) (resolution : Resolution) : Prop where
  token : lookup resolver t = ⟨t, resolution⟩
  key : lookup resolver (Token.key t) = ⟨Token.key t, resolution⟩
  /-- The command that looks expressions up says so in any session with the resolver. -/
  command : ∀ (session : Session) (options : LookupOptions) (config : Config),
    session.configuration options = .ok config → session.resolver config = .ok resolver →
    ∃ unresolved, (session.resolve [t, Token.key t] options).result =
      .ok ⟨.lookup [⟨t, resolution⟩, ⟨Token.key t, resolution⟩], unresolved, false⟩
  /-- A survey with the token has it with this resolution only. -/
  survey : ∀ scan : CorpusScan, t ∈ scan.tokens → ∀ other,
    ⟨t, other⟩ ∈ scan.describe resolver ↔ other = resolution
  /-- The survey of a corpus with the text has the token. -/
  corpus : ∀ (directory : Location) (tree : FileTree) (paths : List Text) (race : Nat)
    (scan : CorpusScan), CorpusScan.ofPaths tree directory paths race = .ok scan → ∀ path ∈ paths,
    tree.read directory path = .ok text → ⟨t, resolution⟩ ∈ scan.describe resolver
  /-- A file of the token alone becomes a file of the expression alone. -/
  value : ∀ v, resolution.value? = some v → ∀ (options : MigrationOptions) (directory : Location)
    (tree : FileTree) (paths : List Text) (race : Nat), options.Clear directory tree paths →
    ∀ path ∈ paths, tree.read directory path = .ok t → ∃ selected scan rows summary,
      (migrate resolver options directory tree race).result =
        .ok (.applied selected scan rows summary) ∧ ⟨t, resolution⟩ ∈ rows ∧
      (migrate resolver options directory tree race).tree.read directory path = .ok v ∧
      path ∉ summary.left.map Prod.fst
  /-- A file of a token without an expression stays as it is, and is reported with the token. -/
  unresolved : resolution = .unresolved → ∀ (options : MigrationOptions) (directory : Location)
    (tree : FileTree) (paths : List Text) (race : Nat), options.Clear directory tree paths →
    ∀ path ∈ paths, tree.read directory path = .ok t → ∃ selected scan rows summary,
      (migrate resolver options directory tree race).result =
        .ok (.applied selected scan rows summary) ∧ ⟨t, resolution⟩ ∈ rows ∧
      (migrate resolver options directory tree race).tree.read directory path = .ok t ∧
      (path, [t]) ∈ summary.left ∧ path ∉ summary.changed

variable {resolver : Resolver} {text t : Text}

theorem lookup_token (h : Token.IsToken t) :
    lookup resolver t = ⟨t, resolver.resolveToken t⟩ := by
  rw [lookup, h.isEnclosed.trim_eq]

theorem lookup_key (h : Token.IsToken t) :
    lookup resolver (Token.key t) = ⟨Token.key t, resolver.resolveToken t⟩ := by
  rw [lookup, h.trim_key, Resolver.resolveToken, h.key_key, Resolver.resolveToken]

theorem mem_describe_iff_of_mem_tokens {scan : CorpusScan} (h : t ∈ scan.tokens)
    {resolution : Resolution} :
    ⟨t, resolution⟩ ∈ scan.describe resolver ↔ resolution = resolver.resolveToken t := by
  rw [CorpusScan.describe, List.mem_map]
  constructor
  · rintro ⟨u, -, hrow⟩
    cases hrow
    rfl
  · rintro rfl
    exact ⟨t, h, rfl⟩

/-- A token of a text has one resolution, whether it is looked up as it stands or by its key alone,
described with its corpus, or substituted in a file of its own. -/
theorem agrees_of_mem_tokens (h : t ∈ Token.tokens text) :
    Agrees resolver text t (resolver.resolveToken t) := by
  have ht := Token.isToken_of_mem_tokens h
  refine { token := lookup_token ht, key := lookup_key ht, command := ?command,
           survey := fun scan hscan _ => mem_describe_iff_of_mem_tokens hscan,
           corpus := ?corpus, value := ?value, unresolved := ?unresolved }
  case command =>
    intro session options config hconfig hresolver
    refine ⟨unresolvedRows
      [⟨t, resolver.resolveToken t⟩, ⟨Token.key t, resolver.resolveToken t⟩], ?_⟩
    simp [Session.resolve, hconfig, hresolver, lookup_token ht, lookup_key ht]
  case corpus =>
    intro directory tree paths race scan hscan path hpath hread
    refine (mem_describe_iff_of_mem_tokens ?_).2 rfl
    obtain ⟨readings, hreadings, rfl⟩ := CorpusScan.ofPaths_eq_ok hscan
    exact CorpusScan.mem_tokens_ofReadings.2
      ⟨_, (CorpusScan.mem_readings hreadings).2 ⟨hpath, text, hread, rfl⟩, h⟩
  case value =>
    intro v hv options directory tree paths race hclear path hpath hread
    obtain ⟨selected, scan, summary, hresult, htokens, hafter, hleft, -⟩ :=
      hclear.exists_applied_token resolver race hpath ht hread
    have hcurrent : resolver.current? t = some v := hv
    refine ⟨selected, scan, _, summary, hresult, (mem_describe_iff_of_mem_tokens htokens).2 rfl,
      by simpa [hcurrent] using hafter, ?_⟩
    rw [List.mem_map]
    rintro ⟨⟨p, left⟩, hmem, rfl⟩
    simp [hcurrent] at hleft
    exact hleft left hmem
  case unresolved =>
    intro hunresolved options directory tree paths race hclear path hpath hread
    obtain ⟨selected, scan, summary, hresult, htokens, hafter, hleft, hchanged⟩ :=
      hclear.exists_applied_token resolver race hpath ht hread
    have hcurrent := Resolver.current?_eq_none_iff.2 hunresolved
    exact ⟨selected, scan, _, summary, hresult, (mem_describe_iff_of_mem_tokens htokens).2 rfl,
      by simpa [hcurrent] using hafter, (hleft _).2 ⟨hcurrent, rfl⟩, by simp [hchanged, hcurrent]⟩

/-- A secret token with blanks and a dollar in its argument. -/
def spaced : Text := "${secrets.getValue( $a key )}".toList

theorem clear_spaced : yamlBelow.Clear [] (oneFile spaced) ["./a.yaml".toList] := by
  have hover : (oneFile spaced).OverwritesReadable [] :=
    FileTree.Grounded.overwritesReadable (by decide +kernel) rfl
  refine ⟨rfl, by decide +kernel, ?_, fun path _ t hread _ => hover path t hread⟩
  simp only [List.mem_singleton, forall_eq]
  exact ⟨spaced, by decide +kernel⟩

/-- The token is found in a line, and a file of it alone holds its expression after a run. -/
theorem agrees_of_mem_tokens_spaced :
    spaced ∈ Token.tokens ("key: ".toList ++ spaced) ∧
    Agrees (.builtin .none) ("key: ".toList ++ spaced) spaced
      (.derived "secrets.getValue(".toList "<+secrets.getValue(\"aKey\")>".toList) ∧
    (migrate (.builtin .none) yamlBelow [] (oneFile spaced) 0).tree.read [] "./a.yaml".toList =
      .ok "<+secrets.getValue(\"aKey\")>".toList := by
  have hmem : spaced ∈ Token.tokens ("key: ".toList ++ spaced) := by decide +kernel
  have hagrees : Agrees (.builtin .none) _ spaced _ := agrees_of_mem_tokens hmem
  have hresolution : (Resolver.builtin .none).resolveToken spaced =
      .derived "secrets.getValue(".toList "<+secrets.getValue(\"aKey\")>".toList := by
    have hkey : Token.key spaced = Catalog.secretStem ++ " $a key )".toList := by decide +kernel
    have htable : (Resolver.builtin .none).table.get? (Token.key spaced) = none := by
      rw [Resolver.builtin_eq]
      decide +kernel
    have hfind := Catalog.find?_registry_of_secretStem .none " $a key )".toList
    rw [← hkey] at hfind
    rw [Resolver.resolveToken, Resolver.resolve, htable, Resolver.builtin_eq, hfind]
    decide +kernel
  rw [hresolution] at hagrees
  obtain ⟨_, _, _, _, -, -, hafter, -⟩ := hagrees.value _ rfl _ _ _ _ _ clear_spaced _
    (List.mem_singleton_self _) (by decide +kernel)
  exact ⟨hmem, hagrees, hafter⟩

end CommandLine
end ExprMigration
