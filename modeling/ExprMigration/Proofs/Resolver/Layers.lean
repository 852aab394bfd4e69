import ExprMigration.CustomEntries
import ExprMigration.Proofs.Catalog.Values

/-!
# Layers of entries

A resolver is told entries and asked for expressions, in any order.  All that a call can do to it is to
merge entries (`Call.run_snd`), so that after any calls it is the resolver with all their entries merged
(`after_eq_merge`).  What it then says about a key is the last value that the catalog and the calls
pair with it, and what the families say if there is none (`resolve_after`).
-/

namespace ExprMigration

/-! ## Last values -/

namespace EntryTable

/-- The last value that some entries pair with a key. -/
def lastValue? (entries : List (Text × Text)) (key : Text) : Option Text :=
  entries.reverse.lookup key

theorem lastValue?_cons (k v : Text) (rest : List (Text × Text)) (key : Text) :
    lastValue? ((k, v) :: rest) key =
      (lastValue? rest key).or (if k = key then some v else none) := by
  rw [lastValue?, List.reverse_cons, List.lookup_append, lastValue?]
  by_cases hk : k = key
  · subst hk
    simp
  · have hne : (key == k) = false := by simpa using Ne.symm hk
    simp [List.lookup_cons, hne, hk]

/-- A key is paired with a value exactly if it is a key of the entries. -/
theorem isSome_lastValue?_iff {entries : List (Text × Text)} {key : Text} :
    (lastValue? entries key).isSome ↔ key ∈ entries.map Prod.fst := by
  induction entries with
  | nil => simp [lastValue?]
  | cons entry rest ih =>
    obtain ⟨k, v⟩ := entry
    rw [lastValue?_cons, Option.isSome_or, Bool.or_eq_true, ih]
    by_cases hk : k = key
    · simp [hk]
    · simp [hk, Ne.symm hk]

/-- After entries are put into a table, each of their keys has its last value, and every other key the
value that it had. -/
theorem get?_putAll (table : EntryTable) (entries : List (Text × Text)) (key : Text) :
    (table.putAll entries).get? key = (lastValue? entries key).or (table.get? key) := by
  induction entries generalizing table with
  | nil => rfl
  | cons entry rest ih =>
    obtain ⟨k, v⟩ := entry
    have hput : table.putAll ((k, v) :: rest) = (table.put k v).putAll rest := rfl
    rw [hput, ih, get?_put, lastValue?_cons]
    by_cases hk : k = key
    · cases lastValue? rest key <;> simp [hk]
    · cases lastValue? rest key <;> simp [hk]

theorem putAll_append (table : EntryTable) (entries more : List (Text × Text)) :
    table.putAll (entries ++ more) = (table.putAll entries).putAll more :=
  List.foldl_append

end EntryTable

/-- What the families of a registry say about a key. -/
def Registry.resolve (registry : Registry) (key : Text) : Resolution :=
  match registry.find? key with
  | some (family, suffix) => .derived family.stem (family.form.expand suffix)
  | none => .unresolved

namespace Resolver

open EntryTable (lastValue?)

/-! ## Calls -/

/-- What a resolver can be told and asked. -/
inductive Call where
  | merge (entries : List (Text × Text))
  /-- A file is looked for in the tree as it is at that time. -/
  | load (tree : FileTree) (directory : Location) (path : Text)
  | resolve (key : Text)
  | resolveToken (token : Text)
  | substitute (tokens : List Text) (t : Text)

/-- What a resolver answers. -/
inductive Answer where
  | merged
  /-- That many entries were in the file. -/
  | loaded (count : Nat)
  | failed (error : CustomEntriesError)
  | resolved (resolution : Resolution)
  | substituted (t : Text) (left : List Text)

namespace Call

/-- The answer to a call, and the resolver after it. -/
def run (resolver : Resolver) : Call → Answer × Resolver
  | .merge entries => (.merged, resolver.merge entries)
  | .load tree directory path =>
    match EntryTable.ofFile tree directory path with
    | .error error => (.failed error, resolver)
    | .ok entries => (.loaded entries.length, resolver.merge entries)
  | .resolve key => (.resolved (resolver.resolve key), resolver)
  | .resolveToken token => (.resolved (resolver.resolveToken token), resolver)
  | .substitute tokens t =>
    let (result, left) := resolver.substitute tokens t
    (.substituted result left, resolver)

/-- The entries that a call gives to a resolver; a load that fails gives none. -/
def entries : Call → List (Text × Text)
  | .merge entries => entries
  | .load tree directory path => (EntryTable.ofFile tree directory path).toOption.getD []
  | .resolve _ | .resolveToken _ | .substitute _ _ => []

variable {resolver : Resolver} {call : Call}

/-- A load leaves the resolver that `Resolver.load` makes, if it makes one. -/
theorem run_load_snd (resolver : Resolver) (tree : FileTree) (directory : Location) (path : Text) :
    ((load tree directory path).run resolver).2 =
      (resolver.load tree directory path).toOption.getD resolver := by
  rcases hfile : EntryTable.ofFile tree directory path with error | loaded
  · simp only [run, Resolver.load, hfile]
    rfl
  · simp only [run, Resolver.load, hfile]
    rfl

/-- All that a call does to a resolver is to merge its entries. -/
theorem run_snd (resolver : Resolver) (call : Call) :
    (call.run resolver).2 = resolver.merge call.entries := by
  cases call with
  | merge entries => rfl
  | load tree directory path =>
    rw [run_load_snd, Resolver.load, entries]
    cases EntryTable.ofFile tree directory path <;> rfl
  | resolve key => rfl
  | resolveToken token => rfl
  | substitute tokens t => rfl

theorem entries_of_failed {error : CustomEntriesError} (h : (call.run resolver).1 = .failed error) :
    call.entries = [] := by
  cases call with
  | load tree directory path =>
    rcases hfile : EntryTable.ofFile tree directory path with error | loaded
    · simp only [entries, hfile]
      rfl
    · simp [run, hfile] at h
  | merge entries => simp [run] at h
  | resolve key => rfl
  | resolveToken token => rfl
  | substitute tokens t => rfl

theorem entries_of_blank {tree : FileTree} {directory : Location} {path : Text}
    (h : Text.trim path = []) : (load tree directory path).entries = [] := by
  simp only [entries, EntryTable.ofFile, h, if_true]
  rfl

end Call

/-- The resolver after some calls. -/
def after (resolver : Resolver) (calls : List Call) : Resolver :=
  calls.foldl (fun resolver call => (call.run resolver).2) resolver

theorem merge_append (resolver : Resolver) (entries more : List (Text × Text)) :
    resolver.merge (entries ++ more) = (resolver.merge entries).merge more := by
  simp only [merge, EntryTable.putAll_append]

/-- After some calls, a resolver is the one with all their entries merged, in the order of the calls. -/
theorem after_eq_merge (resolver : Resolver) (calls : List Call) :
    resolver.after calls = resolver.merge (calls.flatMap Call.entries) := by
  induction calls generalizing resolver with
  | nil => rfl
  | cons call rest ih =>
    have hrest : resolver.after (call :: rest) = (call.run resolver).2.after rest := rfl
    rw [hrest, ih, Call.run_snd, List.flatMap_cons, merge_append]

/-- Calls give every scope the same table. -/
theorem table_after (scope other : SecretScope) (calls : List Call) :
    ((builtin scope).after calls).table = ((builtin other).after calls).table := by
  rw [after_eq_merge, after_eq_merge]
  rfl

theorem registry_after (scope : SecretScope) (calls : List Call) :
    ((builtin scope).after calls).registry = Catalog.registry scope := by
  rw [after_eq_merge]
  rfl

/-! ## What a resolver says -/

theorem resolve_eq (resolver : Resolver) (key : Text) : resolver.resolve key =
    match resolver.table.get? key with
    | some value => .fixed value
    | none => resolver.registry.resolve key := rfl

theorem resolve_merge (resolver : Resolver) (entries : List (Text × Text)) (key : Text) :
    (resolver.merge entries).resolve key =
      match lastValue? entries key with
      | some value => .fixed value
      | none => resolver.resolve key := by
  rw [resolve_eq, resolve_eq, merge, EntryTable.get?_putAll]
  cases lastValue? entries key <;> rfl

theorem resolve_merge_of_notMem {entries : List (Text × Text)} {key : Text} (resolver : Resolver)
    (h : key ∉ entries.map Prod.fst) : (resolver.merge entries).resolve key = resolver.resolve key := by
  have hnone : lastValue? entries key = none := by
    rw [← Option.not_isSome_iff_eq_none, EntryTable.isSome_lastValue?_iff]
    exact h
  rw [resolve_merge, hnone]

theorem isResolved_resolve_merge {key : Text} {resolver : Resolver} (entries : List (Text × Text))
    (h : (resolver.resolve key).isResolved) : ((resolver.merge entries).resolve key).isResolved := by
  rw [resolve_merge]
  cases lastValue? entries key with
  | none => exact h
  | some value => rfl

/-- After any calls on a resolver that began with the catalog, a key has the last value that the catalog
and then the calls pair with it, and what the families say about it if there is none.  A load that
fails or has a blank path leaves the resolver as it is.  No call takes a key its expression, or
touches a key that is not among its entries. -/
theorem resolve_after (scope : SecretScope) (calls : List Call) :
    (∀ key, ((builtin scope).after calls).resolve key =
      match lastValue? (Catalog.entries ++ calls.flatMap Call.entries) key with
      | some value => .fixed value
      | none => (Catalog.registry scope).resolve key) ∧
    ∀ (resolver : Resolver) (call : Call),
      (∀ error, (call.run resolver).1 = .failed error → (call.run resolver).2 = resolver) ∧
      (∀ tree directory path, call = .load tree directory path → Text.trim path = [] →
        (call.run resolver).2 = resolver) ∧
      (∀ key, (resolver.resolve key).isResolved → ((call.run resolver).2.resolve key).isResolved) ∧
      ∀ key, key ∉ call.entries.map Prod.fst →
        (call.run resolver).2.resolve key = resolver.resolve key := by
  refine ⟨fun key => ?_, fun resolver call => ⟨fun error h => ?_, ?_, fun key h => ?_, fun key h => ?_⟩⟩
  · -- the catalog itself is merged into a resolver without entries
    have hall : (builtin scope).after calls =
        (⟨[], Catalog.registry scope⟩ : Resolver).merge
          (Catalog.entries ++ calls.flatMap Call.entries) := by
      rw [after_eq_merge, merge_append]
      rfl
    rw [hall, resolve_merge]
    rfl
  · rw [Call.run_snd, Call.entries_of_failed h]
    rfl
  · rintro tree directory path rfl hblank
    rw [Call.run_snd, Call.entries_of_blank hblank]
    rfl
  · rw [Call.run_snd]
    exact isResolved_resolve_merge _ h
  · rw [Call.run_snd]
    exact resolve_merge_of_notMem resolver h

/-- A tree with a file of two custom entries. -/
def customTree : FileTree :=
  FileTree.empty.put ["custom.yaml".toList]
    (.file (.text "service.name: B\npipeline.variables.x: P\n".toList))

/-- Calls that pair a key of the catalog and one of a family with several values, the last of which
fails. -/
def layering : List Call :=
  [.merge [("service.name".toList, "A".toList), ("pipeline.variables.x".toList, "M".toList)],
    .load customTree [] "custom.yaml".toList,
    .substitute ["${service.name}".toList] "${service.name}".toList,
    .load customTree [] "missing.yaml".toList]

/-- The file beats the catalog, the merge and the family; a key beside it is left to the family; and a
blank path does nothing. -/
theorem resolve_after_layering :
    ((builtin .none).after layering).resolve "service.name".toList = .fixed "B".toList ∧
    ((builtin .none).after layering).resolve "pipeline.variables.x".toList = .fixed "P".toList ∧
    ((builtin .none).after layering).resolve "pipeline.variables.y".toList =
      (Catalog.registry .none).resolve "pipeline.variables.y".toList ∧
    ((Call.load customTree [] "  ".toList).run (builtin .none)).2 = builtin .none := by
  obtain ⟨hresolve, hcall⟩ := resolve_after .none layering
  have hentries : layering.flatMap Call.entries =
      [("service.name".toList, "A".toList), ("pipeline.variables.x".toList, "M".toList),
        ("service.name".toList, "B".toList), ("pipeline.variables.x".toList, "P".toList)] := by
    decide +kernel
  have hlast : lastValue? (Catalog.entries ++ layering.flatMap Call.entries)
      "pipeline.variables.y".toList = none := by
    rw [hentries]
    decide +kernel
  refine ⟨?_, ?_, ?_, ?_⟩
  · rw [hresolve, hentries]
    decide +kernel
  · rw [hresolve, hentries]
    decide +kernel
  · rw [hresolve, hlast]
  · exact (hcall (builtin .none) _).2.1 customTree [] "  ".toList rfl (by decide)

end Resolver
end ExprMigration
