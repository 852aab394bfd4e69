import ExprMigration.Proofs.FileTree.PathMap
import ExprMigration.Proofs.Text.Bytes
import ExprMigration.Proofs.Token.Pieces
import Mathlib.Data.List.Sort

/-!
# What a scan holds

Files are read at the same time.  What has been read does not depend on the outcome of this race
(`collect_eq_ok_iff`), and a scan that fails may fail with the failure of any file that cannot be read
(`CorpusScan.exists_ofPaths_eq_error_iff`).

A scan says about a path what the text there says, however often and in whichever spelling the path was
listed, because all spellings that can be read have one text.  Its files and its tokens are gathered
apart from each other, and agree (`CorpusScan.mem_tokens_iff`).  So a scan summarises the listed files
(`CorpusScan.Summarises`), and lists of the same paths have the same scan (`CorpusScan.ofPaths_same`).
-/

namespace ExprMigration

/-! ## Steps at the same time -/

section Collect

variable {ε α : Type} {results : List (Except ε α)} {values : List α} {error : ε} {race : Nat}

theorem filterMap_failure?_eq_nil_iff :
    results.filterMap failure? = [] ↔ ∃ values : List α, results = values.map .ok := by
  constructor
  · intro hnil
    induction results with
    | nil => exact ⟨[], rfl⟩
    | cons result rest ih =>
      cases result with
      | error error => simp [failure?] at hnil
      | ok value =>
        obtain ⟨values, rfl⟩ := ih (by simpa [failure?] using hnil)
        exact ⟨value :: values, rfl⟩
  · rintro ⟨values, rfl⟩
    simp [List.filterMap_map, Function.comp_def, failure?]

/-- Values are returned exactly if no step fails, whatever the outcome of the race. -/
theorem collect_eq_ok_iff : collect results race = .ok values ↔ results = values.map Except.ok := by
  simp only [collect]
  rcases hfailures : results.filterMap failure? with _ | ⟨first, rest⟩
  · obtain ⟨values', rfl⟩ := filterMap_failure?_eq_nil_iff.1 hfailures
    have hinjective : Function.Injective (Except.ok : α → Except ε α) := fun _ _ => Except.ok.inj
    simp [List.filterMap_map, Function.comp_def, Except.toOption, hinjective.list_map.eq_iff]
  · have hlt : race % (first :: rest).length < (first :: rest).length := Nat.mod_lt _ (by simp)
    simp only [List.getElem?_eq_getElem hlt, reduceCtorEq, false_iff]
    intro hvalues
    simp [filterMap_failure?_eq_nil_iff.2 ⟨values, hvalues⟩] at hfailures

/-- A failure is returned by some outcome of the race exactly if a step fails with it. -/
theorem exists_collect_eq_error_iff :
    (∃ race, collect results race = .error error) ↔ .error error ∈ results := by
  have hmem : error ∈ results.filterMap failure? ↔ .error error ∈ results := by
    rw [List.mem_filterMap]
    constructor
    · rintro ⟨error' | value, hresult, hfailure⟩
      · obtain rfl : error' = error := Option.some.inj hfailure
        exact hresult
      · cases hfailure
    · exact fun hresult => ⟨_, hresult, rfl⟩
  rw [← hmem]
  simp only [collect]
  generalize results.filterMap failure? = failures
  constructor
  · rintro ⟨race, hrace⟩
    split at hrace
    · rename_i error' hget
      obtain rfl : error' = error := Except.error.inj hrace
      exact List.mem_of_getElem? hget
    · cases hrace
  · intro hfailure
    obtain ⟨race, hlt, rfl⟩ := List.getElem_of_mem hfailure
    exact ⟨race, by simp [Nat.mod_eq_of_lt hlt, hlt]⟩

end Collect

namespace CorpusScan

variable {tree : FileTree} {directory : Location} {paths paths' : List Text} {scan scan' : CorpusScan}
  {readings : List (Text × List Text)} {path u : Text} {tokens : List Text} {race race' : Nat}

/-! ## Readings -/

theorem readTokens_eq_ok_iff {r : Text × List Text} : readTokens tree directory path = .ok r ↔
    r.1 = path ∧ ∃ t, tree.read directory path = .ok t ∧ r.2 = Token.tokens t := by
  rcases hread : tree.read directory path with fault | t
  · simp [readTokens, hread]
  · simp [readTokens, hread, Prod.ext_iff, eq_comm]

theorem readTokens_eq_error_iff {error : CorpusError} : readTokens tree directory path = .error error ↔
    ∃ fault, tree.read directory path = .error fault ∧ error = .unreadable path fault := by
  rcases hread : tree.read directory path with fault | t
  · simp [readTokens, hread, eq_comm]
  · simp [readTokens, hread]

theorem readAll_eq_ok (h : readAll tree directory paths race = .ok readings) :
    readings.map Prod.fst = paths ∧
      ∀ r ∈ readings, ∃ t, tree.read directory r.1 = .ok t ∧ r.2 = Token.tokens t := by
  have hresults := collect_eq_ok_iff.1 h
  clear h
  induction readings generalizing paths with
  | nil => simpa using hresults
  | cons r readings ih =>
    obtain ⟨path, rest, rfl, hr, hrest⟩ := List.map_eq_cons_iff.1 hresults
    obtain ⟨rfl, hread⟩ := readTokens_eq_ok_iff.1 hr
    obtain ⟨hmap, hall⟩ := ih hrest
    exact ⟨by rw [List.map_cons, hmap], List.forall_mem_cons.2 ⟨hread, hall⟩⟩

theorem exists_readAll (h : ∀ path ∈ paths, ∃ t, tree.read directory path = .ok t) (race : Nat) :
    ∃ readings, readAll tree directory paths race = .ok readings := by
  simp only [readAll, collect_eq_ok_iff]
  rw [← filterMap_failure?_eq_nil_iff, List.filterMap_eq_nil_iff, List.forall_mem_map]
  intro path hpath
  obtain ⟨t, ht⟩ := h path hpath
  simp [readTokens, ht, failure?]

/-- A scan that succeeds has read every file. -/
theorem exists_read_of_ofPaths (h : ofPaths tree directory paths race = .ok scan) :
    ∀ path ∈ paths, ∃ t, tree.read directory path = .ok t := by
  rcases hreadings : readAll tree directory paths race with fault | readings
  · simp [ofPaths, hreadings, Except.map] at h
  · obtain ⟨rfl, hall⟩ := readAll_eq_ok hreadings
    intro path hpath
    obtain ⟨r, hr, rfl⟩ := List.mem_map.1 hpath
    obtain ⟨t, ht, _⟩ := hall r hr
    exact ⟨t, ht⟩

theorem exists_ofPaths (h : ∀ path ∈ paths, ∃ t, tree.read directory path = .ok t) (race : Nat) :
    ∃ scan, ofPaths tree directory paths race = .ok scan := by
  obtain ⟨readings, hreadings⟩ := exists_readAll h race
  exact ⟨ofReadings readings, by simp [ofPaths, hreadings, Except.map]⟩

theorem ofPaths_eq_ok (h : ofPaths tree directory paths race = .ok scan) :
    ∃ readings, readAll tree directory paths race = .ok readings ∧ scan = ofReadings readings := by
  rcases hreadings : readAll tree directory paths race with error | readings
  · simp [ofPaths, hreadings, Except.map] at h
  · exact ⟨readings, rfl, by simpa [ofPaths, hreadings, Except.map] using h.symm⟩

/-- The readings are the listed paths with the tokens of their texts. -/
theorem mem_readings (h : readAll tree directory paths race = .ok readings) :
    (path, tokens) ∈ readings ↔
      path ∈ paths ∧ ∃ t, tree.read directory path = .ok t ∧ tokens = Token.tokens t := by
  obtain ⟨rfl, hall⟩ := readAll_eq_ok h
  constructor
  · intro hmem
    exact ⟨List.mem_map_of_mem hmem, hall _ hmem⟩
  · rintro ⟨hpath, t, ht, rfl⟩
    obtain ⟨⟨p, ts⟩, hr, rfl⟩ := List.mem_map.1 hpath
    obtain ⟨t', ht', rfl⟩ := hall _ hr
    obtain rfl : t = t' := Except.ok.inj (ht.symm.trans ht')
    exact hr

/-- Spellings of one path are read with the same tokens. -/
theorem tokens_eq_of_same (h : readAll tree directory paths race = .ok readings) :
    ∀ r ∈ readings, ∀ s ∈ readings, Path.same r.1 s.1 → r.2 = s.2 := by
  intro r hr s hs hsame
  obtain ⟨-, t, ht, hrt⟩ := (mem_readings h).1 hr
  obtain ⟨-, t', ht', hst⟩ := (mem_readings h).1 hs
  rw [hrt, hst, FileTree.read_eq_of_same hsame ht ht']

/-- A scan may fail with the failure of any listed file that cannot be read, and with nothing else. -/
theorem exists_ofPaths_eq_error_iff {error : CorpusError} :
    (∃ race, ofPaths tree directory paths race = .error error) ↔
      ∃ path ∈ paths, ∃ fault, tree.read directory path = .error fault ∧
        error = .unreadable path fault := by
  have hreadings (race : Nat) : ofPaths tree directory paths race = .error error ↔
      collect (paths.map (readTokens tree directory)) race = .error error := by
    rw [ofPaths, readAll]
    cases collect (paths.map (readTokens tree directory)) race <;> simp [Except.map]
  simp only [hreadings, exists_collect_eq_error_iff, List.mem_map, readTokens_eq_error_iff]

/-- Whatever the outcome of the race, a scan fails exactly if some listed file cannot be read. -/
theorem exists_error_ofPaths_iff : (∃ error, ofPaths tree directory paths race = .error error) ↔
    ∃ path ∈ paths, ∃ fault, tree.read directory path = .error fault := by
  constructor
  · rintro ⟨error, herror⟩
    obtain ⟨path, hpath, fault, hfault, -⟩ := exists_ofPaths_eq_error_iff.1 ⟨race, herror⟩
    exact ⟨path, hpath, fault, hfault⟩
  · rintro ⟨path, hpath, fault, hfault⟩
    rcases hscan : ofPaths tree directory paths race with error | scan
    · exact ⟨error, rfl⟩
    · obtain ⟨t, ht⟩ := exists_read_of_ofPaths hscan path hpath
      simp [ht] at hfault

/-! ## The files of a scan -/

theorem ordered_files (h : ofPaths tree directory paths race = .ok scan) : scan.files.Ordered := by
  obtain ⟨readings, -, rfl⟩ := ofPaths_eq_ok h
  exact PathMap.ordered_ofList _

/-- A scan gives a path the tokens of a listed spelling of it, if there are some. -/
theorem get?_files (h : ofPaths tree directory paths race = .ok scan) :
    scan.files.get? path = some tokens ↔ tokens ≠ [] ∧ ∃ p ∈ paths, Path.same p path ∧
      ∃ t, tree.read directory p = .ok t ∧ tokens = Token.tokens t := by
  obtain ⟨readings, hreadings, rfl⟩ := ofPaths_eq_ok h
  have hone := tokens_eq_of_same hreadings
  rw [ofReadings, PathMap.get?_ofList fun r hr s hs =>
    hone r (List.mem_filter.1 hr).1 s (List.mem_filter.1 hs).1]
  constructor
  · rintro ⟨⟨p, ts⟩, hmem, hsame, rfl⟩
    obtain ⟨hr, hne⟩ := List.mem_filter.1 hmem
    obtain ⟨hp, hread⟩ := (mem_readings hreadings).1 hr
    exact ⟨by simpa using hne, p, hp, hsame, hread⟩
  · rintro ⟨hne, p, hp, hsame, hread⟩
    have hr : (p, tokens) ∈ readings := (mem_readings hreadings).2 ⟨hp, hread⟩
    exact ⟨_, List.mem_filter.2 ⟨hr, by simpa using hne⟩, hsame, rfl⟩

/-- The files of a scan are listed as they are written, and hold the tokens that are given. -/
theorem mem_files (h : ofPaths tree directory paths race = .ok scan) (hf : (path, tokens) ∈ scan.files) :
    path ∈ paths ∧ tokens ≠ [] ∧
      ∃ t, tree.read directory path = .ok t ∧ tokens = Token.tokens t := by
  have hget := (ordered_files h).get?_of_mem hf
  obtain ⟨hne, p, hp, hsame, t, ht, htokens⟩ := (get?_files h).1 hget
  have hpath : path ∈ paths := by
    obtain ⟨readings, hreadings, rfl⟩ := ofPaths_eq_ok h
    obtain ⟨old, hold⟩ := PathMap.exists_mem_of_mem_ofList hf
    exact ((mem_readings hreadings).1 (List.mem_filter.1 hold).1).1
  obtain ⟨t', ht'⟩ := exists_read_of_ofPaths h path hpath
  obtain rfl := FileTree.read_eq_of_same hsame ht ht'
  exact ⟨hpath, hne, t, ht', htokens⟩

/-- What a scan says about a listed path that can be read. -/
theorem get?_files_of_read (h : ofPaths tree directory paths race = .ok scan) (hpath : path ∈ paths)
    {t : Text} (ht : tree.read directory path = .ok t) :
    scan.files.get? path = if Token.tokens t = [] then none else some (Token.tokens t) := by
  split
  · rename_i hnil
    rcases hget : scan.files.get? path with _ | tokens
    · rfl
    · obtain ⟨hne, p, -, hsame, t', ht', rfl⟩ := (get?_files h).1 hget
      obtain rfl := FileTree.read_eq_of_same hsame ht' ht
      exact absurd hnil hne
  · rename_i hne
    exact (get?_files h).2 ⟨hne, path, hpath, Path.same_refl path, t, ht, rfl⟩

/-! ## The tokens of a scan -/

theorem mem_tokens_ofReadings :
    u ∈ (ofReadings readings).tokens ↔ ∃ r ∈ readings, u ∈ r.2 := by
  simp only [ofReadings, List.mem_mergeSort, List.mem_eraseDups, List.mem_flatMap, List.mem_filter]
  constructor
  · rintro ⟨r, ⟨hr, _⟩, hu⟩
    exact ⟨r, hr, hu⟩
  · rintro ⟨r, hr, hu⟩
    have hne : r.2 ≠ [] := List.ne_nil_of_mem hu
    exact ⟨r, ⟨hr, by simpa using hne⟩, hu⟩

/-- The tokens of a scan stand in their order, each of them once. -/
theorem pairwise_tokens (h : ofPaths tree directory paths race = .ok scan) :
    scan.tokens.Pairwise fun u v => u < v := by
  obtain ⟨readings, -, rfl⟩ := ofPaths_eq_ok h
  have hnodup : (ofReadings readings).tokens.Nodup :=
    (List.mergeSort_perm _ _).nodup_iff.2 (Token.nodup_eraseDups _)
  have hsorted : (ofReadings readings).tokens.Pairwise fun u v => !decide (v < u) := by
    refine List.pairwise_mergeSort (fun u v w huv hvw => ?_) (fun u v => ?_) _
    · simp only [Bool.not_eq_true', decide_eq_false_iff_not, List.not_lt] at huv hvw ⊢
      exact List.le_trans huv hvw
    · simpa only [Bool.or_eq_true, Bool.not_eq_true', decide_eq_false_iff_not, List.not_lt] using
        List.le_total u v
  refine (hnodup.and hsorted).imp fun {u v} ⟨hne, hle⟩ => ?_
  simp only [Bool.not_eq_true', decide_eq_false_iff_not, List.not_lt] at hle
  exact (List.le_iff_lt_or_eq.1 hle).resolve_right hne

theorem nodup_tokens (h : ofPaths tree directory paths race = .ok scan) : scan.tokens.Nodup := by
  refine (pairwise_tokens h).imp fun {u v} hlt => ?_
  rintro rfl
  exact List.lt_irrefl u hlt

/-- The tokens of a scan are the tokens of its files. -/
theorem mem_tokens_iff (h : ofPaths tree directory paths race = .ok scan) :
    u ∈ scan.tokens ↔ ∃ f ∈ scan.files, u ∈ f.2 := by
  obtain ⟨readings, hreadings, heq⟩ := ofPaths_eq_ok h
  have htokens : u ∈ scan.tokens ↔ ∃ r ∈ readings, u ∈ r.2 := heq ▸ mem_tokens_ofReadings
  rw [htokens]
  constructor
  · rintro ⟨⟨p, tokens⟩, hr, hu⟩
    obtain ⟨hp, hread⟩ := (mem_readings hreadings).1 hr
    have hget : scan.files.get? p = some tokens :=
      (get?_files h).2 ⟨List.ne_nil_of_mem hu, p, hp, Path.same_refl p, hread⟩
    obtain ⟨f, hf, -, rfl⟩ := PathMap.exists_mem_of_get? hget
    exact ⟨f, hf, hu⟩
  · rintro ⟨⟨p, tokens⟩, hf, hu⟩
    obtain ⟨hp, -, hread⟩ := mem_files h hf
    exact ⟨_, (mem_readings hreadings).2 ⟨hp, hread⟩, hu⟩

theorem mem_tokens_iff_read (h : ofPaths tree directory paths race = .ok scan) :
    u ∈ scan.tokens ↔
      ∃ path ∈ paths, ∃ t, tree.read directory path = .ok t ∧ u ∈ Token.tokens t := by
  obtain ⟨readings, hreadings, rfl⟩ := ofPaths_eq_ok h
  rw [mem_tokens_ofReadings]
  constructor
  · rintro ⟨⟨p, tokens⟩, hr, hu⟩
    obtain ⟨hp, t, ht, rfl⟩ := (mem_readings hreadings).1 hr
    exact ⟨p, hp, t, ht, hu⟩
  · rintro ⟨p, hp, t, ht, hu⟩
    exact ⟨(p, Token.tokens t), (mem_readings hreadings).2 ⟨hp, t, ht, rfl⟩, hu⟩

/-! ## Whole scans -/

/-- Scans with the same tokens of the same files. -/
structure Same (a b : CorpusScan) : Prop where
  files : a.files.Same b.files
  tokens : a.tokens = b.tokens

/-- A scan says of the listed files what they hold. -/
structure Summarises (scan : CorpusScan) (tree : FileTree) (directory : Location)
    (paths : List Text) : Prop where
  /-- A file with a token has its tokens, and one without any is left out. -/
  found : ∀ path ∈ paths, ∀ t, tree.read directory path = .ok t →
    scan.files.get? path = if Token.tokens t = [] then none else some (Token.tokens t)
  /-- There is nothing else: every file of the scan is listed, with tokens. -/
  listed : ∀ f ∈ scan.files, f.1 ∈ paths ∧ f.2 ≠ []
  /-- No file is there twice. -/
  ordered : scan.files.Ordered
  isEmpty : scan.isEmpty ↔
    ∀ path ∈ paths, ∀ t, tree.read directory path = .ok t → Token.tokens t = []
  tokens : ∀ u, u ∈ scan.tokens ↔ ∃ f ∈ scan.files, u ∈ f.2

theorem isEmpty_iff (h : ofPaths tree directory paths race = .ok scan) : scan.isEmpty ↔
    ∀ path ∈ paths, ∀ t, tree.read directory path = .ok t → Token.tokens t = [] := by
  rw [isEmpty, List.isEmpty_iff]
  constructor
  · intro hnil path hpath t ht
    by_contra hne
    have hget := get?_files_of_read h hpath ht
    rw [hnil, if_neg hne] at hget
    simp [PathMap.get?] at hget
  · intro hall
    rw [List.eq_nil_iff_forall_not_mem]
    rintro ⟨path, tokens⟩ hf
    obtain ⟨hpath, hne, t, ht, rfl⟩ := mem_files h hf
    exact hne (hall path hpath t ht)

theorem summarises_of_ok (h : ofPaths tree directory paths race = .ok scan) :
    scan.Summarises tree directory paths where
  found _ hpath _ ht := get?_files_of_read h hpath ht
  listed _ hf := ⟨(mem_files h hf).1, (mem_files h hf).2.1⟩
  ordered := ordered_files h
  isEmpty := isEmpty_iff h
  tokens _ := mem_tokens_iff h

/-- Scans of the same paths are the same. -/
theorem same_of_ok (hpaths : ∀ path, path ∈ paths ↔ path ∈ paths')
    (h : ofPaths tree directory paths race = .ok scan)
    (h' : ofPaths tree directory paths' race' = .ok scan') : scan.Same scan' := by
  constructor
  · refine (ordered_files h).same_of_get? (ordered_files h') fun path => Option.ext fun tokens => ?_
    simp only [get?_files h, get?_files h', hpaths]
  · refine (pairwise_tokens h).eq_of_mem_iff (pairwise_tokens h') fun u => ?_
    simp only [mem_tokens_iff_read h, mem_tokens_iff_read h', hpaths]

/-- Lists of the same paths, in any order and with any repetitions, are scanned alike: both scans fail,
exactly if some listed file cannot be read, or both are the same scan.  It summarises the listed files,
and its description has every token that is found in one of them, once and in the order of bytes. -/
theorem ofPaths_same (hpaths : ∀ path, path ∈ paths ↔ path ∈ paths') :
    ((∃ error, ofPaths tree directory paths race = .error error) ↔
      ∃ path ∈ paths, ∃ fault, tree.read directory path = .error fault) ∧
    ((∃ error, ofPaths tree directory paths' race' = .error error) ↔
      ∃ path ∈ paths, ∃ fault, tree.read directory path = .error fault) ∧
    ∀ scan, ofPaths tree directory paths race = .ok scan →
      (∃ scan', ofPaths tree directory paths' race' = .ok scan' ∧ scan.Same scan') ∧
      scan.Summarises tree directory paths ∧
      ∀ resolver : Resolver,
        ((scan.describe resolver).map TokenRow.token).Pairwise
          (fun u v => Text.bytes u < Text.bytes v) ∧
        ∀ u, u ∈ (scan.describe resolver).map TokenRow.token ↔
          ∃ path ∈ paths, ∃ t, tree.read directory path = .ok t ∧ u ∈ Token.tokens t := by
  refine ⟨exists_error_ofPaths_iff, ?_, fun scan h => ⟨?_, summarises_of_ok h, fun resolver => ?_⟩⟩
  · simp only [exists_error_ofPaths_iff, hpaths]
  · obtain ⟨scan', h'⟩ := exists_ofPaths
      (fun path hpath => exists_read_of_ofPaths h path ((hpaths path).2 hpath)) race'
    exact ⟨scan', h', same_of_ok hpaths h h'⟩
  · have hrows : (scan.describe resolver).map TokenRow.token = scan.tokens := by
      simp [describe, Function.comp_def]
    rw [hrows]
    exact ⟨(pairwise_tokens h).imp Text.bytes_lt_bytes, fun u => mem_tokens_iff_read h⟩

/-- Two files with tokens, one of them in a directory, and one without any. -/
def scattered : FileTree :=
  ((FileTree.empty.putWithParents ["x".toList, "a.yaml".toList]
      (.file (.text "${service.name} ${unknown}".toList))).put
    ["b.yaml".toList] (.file (.text "${unknown} ${app.name}".toList))).put
    ["c.yaml".toList] (.file (.text "plain".toList))

/-- The paths of these files, with two spellings of one of them. -/
def scatteredPaths : List Text :=
  ["x//a.yaml".toList, "c.yaml".toList, "b.yaml".toList, "x/a.yaml".toList]

/-- The list backwards, with repetitions, has the same scan; only the other spelling is kept. -/
theorem ofPaths_same_scattered : ∃ scan scan',
    ofPaths scattered [] scatteredPaths 0 = .ok scan ∧
    ofPaths scattered [] (scatteredPaths.reverse ++ scatteredPaths) 1 = .ok scan' ∧
    scan.Same scan' ∧
    scan.files.map Prod.fst = ["b.yaml".toList, "x//a.yaml".toList] ∧
    scan'.files.map Prod.fst = ["b.yaml".toList, "x/a.yaml".toList] := by
  have hread : ∀ path ∈ scatteredPaths, ∃ t, scattered.read [] path = .ok t := by
    have hok : ∀ path ∈ scatteredPaths, (scattered.read [] path).toOption.isSome := by decide +kernel
    intro path hpath
    rcases h : scattered.read [] path with fault | t
    · simpa [h, Except.toOption] using hok path hpath
    · exact ⟨t, rfl⟩
  obtain ⟨scan, hscan⟩ := exists_ofPaths hread 0
  have hpaths : ∀ path, path ∈ scatteredPaths ↔ path ∈ scatteredPaths.reverse ++ scatteredPaths :=
    fun path => by simp
  obtain ⟨-, -, hall⟩ := ofPaths_same hpaths
  obtain ⟨⟨scan', hscan', hsame⟩, -, -⟩ := hall scan hscan
  have hfiles : (ofPaths scattered [] scatteredPaths 0).toOption.map (·.files.map Prod.fst) =
      some ["b.yaml".toList, "x//a.yaml".toList] := by
    decide +kernel
  have hfiles' : (ofPaths scattered [] (scatteredPaths.reverse ++ scatteredPaths) 1).toOption.map
      (·.files.map Prod.fst) = some ["b.yaml".toList, "x/a.yaml".toList] := by
    decide +kernel
  rw [hscan] at hfiles
  rw [hscan'] at hfiles'
  exact ⟨scan, scan', hscan, hscan', hsame, Option.some.inj hfiles, Option.some.inj hfiles'⟩

end CorpusScan
end ExprMigration
