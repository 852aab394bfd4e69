import ExprMigration.Proofs.FileTree.Grounded
import ExprMigration.Proofs.FileTree.PathOrder
import ExprMigration.Proofs.Migration.Applied

/-!
# Scans out of date

A scan may be applied to a tree that is no longer the one that was scanned.  The run then stops at the
first of its files that cannot be read, with the files in front of it rewritten and everything else as
it was (`StoppedAt`), or rewrites all of them.  A run over a list of files parts at any place of the
list (`applyFiles_append`), so that the files in front of the one that cannot be read are a run that
succeeds.
-/

namespace ExprMigration

variable {resolver : Resolver} {directory : Location} {tree after : FileTree}
  {files : PathMap (List Text)} {summary : ChangeSummary}

/-! ## Paths to files -/

namespace FileTree

variable {paths : List Text}

/-- No two of some paths name one file. -/
def NamesDistinct (tree : FileTree) (directory : Location) (paths : List Text) : Prop :=
  paths.Pairwise fun p q => ∀ place content, tree.get? place = some (.file content) →
    tree.locate .content directory p = .ok place → tree.locate .content directory q ≠ .ok place

theorem NamesDistinct.apart (h : tree.NamesDistinct directory paths)
    (hread : ∀ p ∈ paths, ∃ t, tree.read directory p = .ok t) : tree.Apart directory paths := by
  refine List.Pairwise.imp_of_mem (fun {p q} hp _ hpq place hplace => ?_) h
  obtain ⟨t, ht⟩ := hread p hp
  obtain ⟨place', hlocate, hget⟩ := read_eq_ok_iff.1 ht
  obtain rfl : place' = place := Except.ok.inj (hlocate.symm.trans hplace)
  exact hpq place' _ hget hplace

theorem namesDistinct_of_locate_ne (h : paths.Pairwise fun p q =>
    tree.locate .content directory p ≠ tree.locate .content directory q) :
    tree.NamesDistinct directory paths :=
  h.imp fun hpq _ _ _ hp hq => hpq (hp.trans hq.symm)

end FileTree

/-! ## Parting a run -/

/-- The summary of a run over some files and then others. -/
def ChangeSummary.append (summary rest : ChangeSummary) : ChangeSummary :=
  ⟨summary.changed ++ rest.changed, summary.left ++ rest.left⟩

theorem ChangeSummary.append_withFile (summary rest : ChangeSummary) (path before after : Text)
    (left : List Text) : (summary.withFile path before after left).append rest =
      (summary.append rest).withFile path before after left := by
  by_cases hsame : after = before <;> by_cases hleft : left = [] <;>
    simp [append, withFile, hsame, hleft]

/-- A run over some files and then others goes on with the others where it succeeded with the first. -/
theorem applyFiles_append (rest : PathMap (List Text))
    (h : (applyFiles resolver directory files tree).result = .ok summary) :
    applyFiles resolver directory (files ++ rest) tree =
      ⟨(applyFiles resolver directory rest
          (applyFiles resolver directory files tree).tree).result.map summary.append,
        (applyFiles resolver directory rest (applyFiles resolver directory files tree).tree).tree⟩ := by
  induction files generalizing tree summary with
  | nil =>
    obtain rfl : ChangeSummary.empty = summary := by simpa [applyFiles] using h
    simp only [List.nil_append, applyFiles]
    rcases hrun : applyFiles resolver directory rest tree with ⟨_ | _, _⟩ <;>
      simp [Except.map, ChangeSummary.append, ChangeSummary.empty]
  | cons head behind ih =>
    obtain ⟨path, tokens⟩ := head
    obtain ⟨before, place, written, summary', hlocate, hget, -, hwrite, hbehind, htree, rfl⟩ :=
      applyFiles_cons h
    have hread : tree.read directory path = .ok before :=
      FileTree.read_eq_ok_iff.2 ⟨place, hlocate, hget⟩
    rw [htree, List.cons_append, applyFiles]
    simp only [hread, hwrite, ih hbehind]
    rcases (applyFiles resolver directory rest
      (applyFiles resolver directory behind written).tree).result with error | summary <;>
      simp [Except.map, ChangeSummary.append_withFile]

/-! ## Changed files -/

/-- The files that a run reports as changed are those that read differently after it. -/
theorem changed_of_ok (hapart : tree.Apart directory (files.map Prod.fst))
    (h : (applyFiles resolver directory files tree).result = .ok summary) :
    summary.changed = (files.map Prod.fst).filter fun path =>
      (applyFiles resolver directory files tree).tree.read directory path ≠
        tree.read directory path := by
  induction files generalizing tree summary with
  | nil =>
    obtain rfl : ChangeSummary.empty = summary := by simpa [applyFiles] using h
    rfl
  | cons head rest ih =>
    obtain ⟨path, tokens⟩ := head
    have hsubstituted := substituted_of_ok hapart h
    obtain ⟨before, place, written, summary', hlocate, hget, hwritten, -, hrest, htree, rfl⟩ :=
      applyFiles_cons h
    obtain ⟨hapartRest, helsewhere⟩ := FileTree.Apart.put hapart hlocate hget
      (.text (resolver.substitute tokens before).1)
    rw [← hwritten] at hapartRest helsewhere
    have hread : tree.read directory path = .ok before :=
      FileTree.read_eq_ok_iff.2 ⟨place, hlocate, hget⟩
    obtain ⟨_, hread', hafter⟩ := hsubstituted.read _ List.mem_cons_self
    cases hread.symm.trans hread'
    rw [htree] at hafter ⊢
    have hrestChanged : summary'.changed = (rest.map Prod.fst).filter fun q =>
        (applyFiles resolver directory rest written).tree.read directory q ≠
          tree.read directory q := by
      rw [ih hapartRest hrest]
      exact List.filter_congr fun q hq => by rw [helsewhere q hq]
    rw [ChangeSummary.changed_withFile, hrestChanged, List.map_cons, List.filter_cons, hafter, hread]
    by_cases hsame : (resolver.substitute tokens before).1 = before <;> simp [hsame]

/-! ## Where a run stops -/

/-- A run over files stops at one that cannot be read: the files before it in path order hold their
texts with the given tokens replaced, and it, those behind it and everything else are as they were. -/
structure StoppedAt (resolver : Resolver) (directory : Location) (path : Text) (fault : Fault)
    (files : PathMap (List Text)) (tree after : FileTree) : Prop where
  listed : path ∈ files.map Prod.fst
  unreadable : tree.read directory path = .error fault
  earlier : OnlyRewritten resolver directory (files.filter fun f => Path.Before f.1 path) tree after
  later : ∀ f ∈ files, ¬ Path.Before f.1 path → ∀ place,
    tree.locate .content directory f.1 = .ok place → after.get? place = tree.get? place

theorem exists_first_unreadable (h : ¬ ∀ f ∈ files, ∃ t, tree.read directory f.1 = .ok t) :
    ∃ front f rest fault, files = front ++ f :: rest ∧
      (∀ g ∈ front, ∃ t, tree.read directory g.1 = .ok t) ∧
      tree.read directory f.1 = .error fault := by
  induction files with
  | nil => simp at h
  | cons head files ih =>
    rcases hread : tree.read directory head.1 with fault | t
    · exact ⟨[], head, files, fault, rfl, by simp, hread⟩
    · obtain ⟨front, f, rest, fault, rfl, hfront, hfault⟩ :=
        ih fun hall => h (List.forall_mem_cons.2 ⟨⟨t, hread⟩, hall⟩)
      exact ⟨head :: front, f, rest, fault, rfl, List.forall_mem_cons.2 ⟨⟨t, hread⟩, hfront⟩, hfault⟩

section Distinct

variable (hdistinct : tree.NamesDistinct directory (files.map Prod.fst))
  (hwrite : ∀ f ∈ files, ∀ t, tree.read directory f.1 = .ok t → tree.Writable directory f.1)

include hdistinct hwrite

/-- A run whose files can be read succeeds, and no two of them are one file. -/
theorem applyFiles_readable (resolver : Resolver)
    (hread : ∀ f ∈ files, ∃ t, tree.read directory f.1 = .ok t) :
    ∃ summary, (applyFiles resolver directory files tree).result = .ok summary ∧
      tree.Apart directory (files.map Prod.fst) := by
  refine (exists_applyFiles hread fun f hf => ?_).imp fun summary h => ⟨h, ?_⟩
  · obtain ⟨t, ht⟩ := hread f hf
    exact hwrite f hf t ht
  · exact hdistinct.apart (List.forall_mem_map.2 hread)

/-- A run of which some file cannot be read stops at the first such file. -/
theorem applyFiles_unreadable (resolver : Resolver) (hordered : files.Ordered)
    (hread : ¬ ∀ f ∈ files, ∃ t, tree.read directory f.1 = .ok t) :
    ∃ path fault, (applyFiles resolver directory files tree).result =
        .error (.unreadable path fault) ∧
      StoppedAt resolver directory path fault files tree
        (applyFiles resolver directory files tree).tree := by
  obtain ⟨front, ⟨path, tokens⟩, rest, fault, rfl, hfront, hfault⟩ := exists_first_unreadable hread
  rw [FileTree.NamesDistinct, List.pairwise_map] at hdistinct
  obtain ⟨hdistinctFront, -, hacross⟩ := List.pairwise_append.1 hdistinct
  obtain ⟨summary, hsummary, hapart⟩ := applyFiles_readable (List.pairwise_map.2 hdistinctFront)
    (fun f hf => hwrite f (List.mem_append_left _ hf)) resolver hfront
  have honly := onlyRewritten_of_ok hapart hsummary
  -- what is in front can be read, so that it is a file, and nothing behind it names that file
  have hbehind : ∀ f ∈ front, ∀ g ∈ (path, tokens) :: rest, ∀ place,
      tree.locate .content directory f.1 = .ok place →
      tree.locate .content directory g.1 ≠ .ok place := by
    intro f hf g hg place hplace
    obtain ⟨place', before, hlocate, hget, -⟩ := honly.rewritten f hf
    obtain rfl : place' = place := Except.ok.inj (hlocate.symm.trans hplace)
    exact hacross f hf g hg place' _ hget hplace
  have hstill : (applyFiles resolver directory front tree).tree.read directory path =
      .error fault := by
    rw [(substituted_of_ok hapart hsummary).frame path fun f hf => ?_, hfault]
    exact hbehind f hf _ List.mem_cons_self
  have hrun : applyFiles resolver directory (front ++ (path, tokens) :: rest) tree =
      ⟨.error (.unreadable path fault), (applyFiles resolver directory front tree).tree⟩ := by
    rw [applyFiles_append _ hsummary, applyFiles]
    simp [hstill, Except.map]
  have hfilter := hordered.filter_before
  rw [hrun]
  refine ⟨path, fault, rfl, { listed := by simp, unreadable := hfault,
                              earlier := hfilter.symm ▸ honly, later := ?_ }⟩
  intro f hf hnot place hplace
  have hmem : f ∈ (path, tokens) :: rest := by
    refine (List.mem_append.1 hf).resolve_left fun hf => hnot ?_
    rw [← hfilter] at hf
    simpa using (List.mem_filter.1 hf).2
  exact honly.frame place fun g hg hgplace => hbehind g hg f hmem place hgplace hplace

end Distinct

/-! ## Applying a scan -/

/-- A scan applied to any tree in which its paths name distinct files and files that can be read can be
written over.  It fails only because of the first of its files that cannot be read, which leaves
the files before that one rewritten and the rest of the tree as it was.  Otherwise it rewrites all its
files and nothing else, and reports those that read differently afterwards, in path order. -/
theorem CorpusScan.apply_upto_unreadable (scan : CorpusScan) (resolver : Resolver)
    (hordered : scan.files.Ordered)
    (hdistinct : tree.NamesDistinct directory (scan.files.map Prod.fst))
    (hwrite : ∀ f ∈ scan.files, ∀ t, tree.read directory f.1 = .ok t →
      tree.Writable directory f.1) :
    (∀ error, (scan.apply resolver directory tree).result = .error error →
      ∃ path fault, error = .unreadable path fault ∧
        StoppedAt resolver directory path fault scan.files tree
          (scan.apply resolver directory tree).tree) ∧
    ∀ summary, (scan.apply resolver directory tree).result = .ok summary →
      OnlyRewritten resolver directory scan.files tree (scan.apply resolver directory tree).tree ∧
      summary.changed = (scan.files.map Prod.fst).filter (fun path =>
        (scan.apply resolver directory tree).tree.read directory path ≠ tree.read directory path) ∧
      summary.changed.Pairwise Path.Before := by
  rw [CorpusScan.apply]
  by_cases hread : ∀ f ∈ scan.files, ∃ t, tree.read directory f.1 = .ok t
  · obtain ⟨summary, hsummary, hapart⟩ := applyFiles_readable hdistinct hwrite resolver hread
    refine ⟨fun error herror => ?_, fun summary' h => ?_⟩
    · simp [hsummary] at herror
    · have hchanged := changed_of_ok hapart h
      refine ⟨onlyRewritten_of_ok hapart h, hchanged, ?_⟩
      rw [hchanged]
      exact (List.pairwise_map.2 hordered).filter _
  · obtain ⟨path, fault, hresult, hstopped⟩ :=
      applyFiles_unreadable hdistinct hwrite resolver hordered hread
    refine ⟨fun error herror => ?_, fun summary h => ?_⟩
    · exact ⟨path, fault, (Except.error.inj (hresult.symm.trans herror)).symm, hstopped⟩
    · simp [hresult] at h

/-- The scan of three files that each held one token. -/
def threeScanned : CorpusScan :=
  .ofReadings [("./c.yaml".toList, ["${service.name}".toList]),
    ("./a.yaml".toList, ["${service.name}".toList]),
    ("./b.yaml".toList, ["${service.name}".toList])]

/-- The three files later: the first one is longer, and the second one is no text. -/
def threeLater : FileTree :=
  ((oneFile "in ${service.name}".toList).put ["b.yaml".toList] (.file (.bytes [0xff]))).put
    ["c.yaml".toList] (.file (.text "${service.name}".toList))

/-- The run stops at the second file, with the first one rewritten as it was found. -/
theorem CorpusScan.apply_upto_unreadable_three :
    (threeScanned.apply (.builtin .none) [] threeLater).result =
      .error (.unreadable "./b.yaml".toList .notText) ∧
    (threeScanned.apply (.builtin .none) [] threeLater).tree.get? ["a.yaml".toList] =
      some (.file (.text "in <+service.name>".toList)) ∧
    (threeScanned.apply (.builtin .none) [] threeLater).tree.get? ["c.yaml".toList] =
      some (.file (.text "${service.name}".toList)) := by
  have hdistinct : threeLater.NamesDistinct [] (threeScanned.files.map Prod.fst) :=
    FileTree.namesDistinct_of_locate_ne (by decide +kernel)
  have hover : threeLater.OverwritesReadable [] :=
    FileTree.Grounded.overwritesReadable (by decide +kernel) rfl
  obtain ⟨hfails, -⟩ := apply_upto_unreadable threeScanned (.builtin .none)
    (PathMap.ordered_ofList _) hdistinct fun f _ => hover f.1
  have hresult : (threeScanned.apply (.builtin .none) [] threeLater).result =
      .error (.unreadable "./b.yaml".toList .notText) := by
    rw [Resolver.builtin_eq]
    decide +kernel
  obtain ⟨path, fault, heq, hstopped⟩ := hfails _ hresult
  cases heq
  have hlocate : threeLater.locate .content [] "./a.yaml".toList = .ok ["a.yaml".toList] ∧
      threeLater.locate .content [] "./c.yaml".toList = .ok ["c.yaml".toList] := by
    decide +kernel
  have hcontent : threeLater.get? ["a.yaml".toList] =
      some (.file (.text "in ${service.name}".toList)) := by
    decide +kernel
  have hnew : ((Resolver.builtin .none).substitute ["${service.name}".toList]
      "in ${service.name}".toList).1 = "in <+service.name>".toList := by
    rw [Resolver.builtin_eq]
    decide +kernel
  refine ⟨hresult, ?_, ?_⟩
  · obtain ⟨place, before, hplace, hget, hafter⟩ := hstopped.earlier.rewritten
      ("./a.yaml".toList, ["${service.name}".toList]) (by decide +kernel)
    obtain rfl : ["a.yaml".toList] = place := Except.ok.inj (hlocate.1.symm.trans hplace)
    obtain rfl : "in ${service.name}".toList = before := by
      have heq := hcontent.symm.trans hget
      simpa only [Option.some.injEq, Entry.file.injEq, Content.text.injEq] using heq
    rw [hafter, hnew]
  · rw [hstopped.later ("./c.yaml".toList, ["${service.name}".toList]) (by decide +kernel)
      (by decide +kernel) _ hlocate.2]
    decide +kernel

end ExprMigration
