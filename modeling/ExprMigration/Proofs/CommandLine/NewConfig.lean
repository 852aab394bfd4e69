import ExprMigration.Proofs.CommandLine.ReadOnly
import ExprMigration.Proofs.Config.Overlay

/-!
# A new configuration file

The command `init` is to add one file under the name of the configuration, or to fail and change
nothing.  Whether the name is taken is asked of what it stands for, so that a link to where there is no
entry counts as free, and the file is made where the link leads: the one case in which the command makes
a file elsewhere (`init_keepsPromise_iff`).
-/

namespace ExprMigration

/-- A tree is another one with one more entry. -/
structure FileTree.Adds (before : FileTree) (place : Location) (entry : Entry) (after : FileTree) :
    Prop where
  new : before.get? place = none
  added : after.get? place = some entry
  kept : ∀ other, other ≠ place → after.get? other = before.get? other

theorem FileTree.adds_put {tree : FileTree} {place : Location} (hnew : tree.get? place = none)
    (hplace : Location.isPlace place) (entry : Entry) :
    tree.Adds place entry (tree.put place entry) where
  new := hnew
  added := by rw [get?_put tree place entry hplace, if_pos rfl]
  kept other hne := by rw [get?_put tree other entry hplace, if_neg (Ne.symm hne)]

namespace CommandLine

open Config (fileName defaultText)

variable {session : Session} {completed : Completed} {entry : Entry}

/-! ## What is promised -/

/-- Where the configuration file of the working directory stands. -/
def Session.configPlace (session : Session) : Location := session.directory ++ [fileName]

/-- The file that `init` makes. -/
def writtenDefaults : Entry := .file (.text defaultText)

/-- The promise of `init`: it fails and leaves the tree as it was, or the name of the configuration file
was free and the tree has the written defaults under it and is otherwise as it was. -/
def Session.KeepsPromise (session : Session) : Prop :=
  (∃ error, session.init.result = .error error) ∧ session.init.tree = session.tree ∨
  (∃ completed, session.init.result = .ok completed) ∧
    session.tree.Adds session.configPlace writtenDefaults session.init.tree

/-- The name of the configuration file is that of a link, and leads to where there is no entry but a file
can be made. -/
def Session.Dangles (session : Session) : Prop :=
  ∃ target place, session.tree.get? session.configPlace = some (.link target) ∧
    session.tree.locate .creation session.directory fileName = .ok place ∧
    session.tree.get? place = none

/-! ## Where the name leads -/

/-- The name of the configuration file leads to its place, unless it is that of a link. -/
theorem locate_fileName (purpose : FileTree.Purpose)
    (h : ∀ target, session.tree.get? session.configPlace ≠ some (.link target)) :
    session.tree.locate purpose session.directory fileName = .ok session.configPlace := by
  have hname : Location.isName fileName := by decide
  have hlocate : session.tree.locate purpose session.directory fileName =
      session.tree.travel purpose FileTree.linkLimit session.directory [.down fileName] := by
    rw [FileTree.locate, if_neg (by decide), if_neg (by decide), if_neg (by decide),
      FileTree.origin_name hname, FileTree.steps_name hname]
  rw [hlocate]
  refine FileTree.travel_of_advance_at ?_ _
  have hshort : ¬ FileTree.nameLimit < Text.utf8Size fileName := by decide
  rcases hget : session.tree.get? session.configPlace with _ | (_ | _ | target)
  all_goals simp only [Session.configPlace] at hget
  · simp [FileTree.advance, hshort, hget, Session.configPlace]
  · simp [FileTree.advance, hshort, hget, Session.configPlace]
  · simp [FileTree.advance, hshort, hget, Session.configPlace]
  · exact absurd hget (h target)

theorem isPlace_configPlace
    (hdirectory : session.tree.get? session.directory = some .directory) :
    Location.isPlace session.configPlace := by
  have hnames : ∀ n ∈ session.directory, Location.isName n := by
    by_cases hroot : session.directory = []
    · simp [hroot]
    · exact FileTree.isName_of_get? hroot hdirectory
  simpa [Location.isPlace, Session.configPlace] using ⟨hnames, by decide⟩

/-! ## When the command succeeds -/

theorem init_eq_of_write {written : FileTree}
    (hexists : session.tree.existsAt session.directory fileName = false)
    (hwrite : session.tree.write session.directory fileName (.text defaultText) = .ok written) :
    session.init = ⟨.ok ⟨.creation fileName, 0, false⟩, written⟩ := by
  simp [Session.init, hexists, hwrite]

/-- Where the name leads to no entry, but a file can be made, the file is made there. -/
theorem init_of_locate {place : Location}
    (hlocate : session.tree.locate .creation session.directory fileName = .ok place)
    (hnew : session.tree.get? place = none) :
    session.init = ⟨.ok ⟨.creation fileName, 0, false⟩, session.tree.put place writtenDefaults⟩ := by
  refine init_eq_of_write ?_ ?_
  · simp [FileTree.existsAt, FileTree.locate_content_of_creation hlocate, hnew]
  · simp [FileTree.write, hlocate, hnew, writtenDefaults]

/-- A command that succeeds has found no entry behind the name, and has made the file there. -/
theorem exists_locate_of_init (h : session.init.result = .ok completed) :
    ∃ place, session.tree.locate .creation session.directory fileName = .ok place ∧
      session.tree.get? place = none := by
  obtain ⟨hexists, hwrite⟩ := Config.write_of_init h
  rcases hlocate : session.tree.locate .creation session.directory fileName with fault | place
  · simp [FileTree.write, hlocate] at hwrite
  · refine ⟨place, rfl, ?_⟩
    simpa [FileTree.existsAt, FileTree.locate_content_of_creation hlocate] using hexists

theorem init_ok_iff : (∃ completed, session.init.result = .ok completed) ↔
    session.tree.get? session.configPlace = none ∨ session.Dangles := by
  constructor
  · rintro ⟨completed, hresult⟩
    obtain ⟨place, hlocate, hnew⟩ := exists_locate_of_init hresult
    by_cases hlink : ∃ target, session.tree.get? session.configPlace = some (.link target)
    · obtain ⟨target, hlink⟩ := hlink
      exact .inr ⟨target, place, hlink, hlocate, hnew⟩
    · rw [locate_fileName .creation fun target htarget => hlink ⟨target, htarget⟩] at hlocate
      exact .inl (Except.ok.inj hlocate ▸ hnew)
  · rintro (hnone | ⟨target, place, -, hlocate, hnew⟩)
    · exact ⟨_, congrArg Ending.result (init_of_locate
        (locate_fileName .creation fun target => by simp [hnone]) hnone)⟩
    · exact ⟨_, congrArg Ending.result (init_of_locate hlocate hnew)⟩

theorem adds_of_free (hdirectory : session.tree.get? session.directory = some .directory)
    (hfree : session.tree.get? session.configPlace = none) :
    session.tree.Adds session.configPlace writtenDefaults session.init.tree := by
  have hlocate : session.tree.locate .creation session.directory fileName = .ok session.configPlace :=
    locate_fileName .creation fun target => by simp [hfree]
  rw [init_of_locate hlocate hfree]
  exact FileTree.adds_put hfree (isPlace_configPlace hdirectory) _

/-- A link to where a file can be made lets the command make it there. -/
theorem Session.Dangles.exists_adds (hgrounded : session.tree.Grounded)
    (hdirectory : session.tree.get? session.directory = some .directory) (h : session.Dangles) :
    ∃ place, place ≠ session.configPlace ∧
      session.tree.Adds place writtenDefaults session.init.tree := by
  obtain ⟨target, place, hlink, hlocate, hnew⟩ := h
  have hplace : Location.isPlace place := hgrounded.isPlace_of_travel (FileTree.get?_origin hdirectory)
    (FileTree.named_steps fileName)
    (FileTree.travel_of_locate (FileTree.locate_content_of_creation hlocate)) hnew
  refine ⟨place, ?_, ?_⟩
  · rintro rfl
    simp [hlink] at hnew
  · rw [init_of_locate hlocate hnew]
    exact FileTree.adds_put hnew hplace _

/-- From a directory of a grounded tree, `init` succeeds exactly if there is no entry under the name of
the configuration file, or a link to where a file can be made.  In the latter case it makes the file
there, and in no other does it break its promise. -/
theorem init_keepsPromise_iff (hgrounded : session.tree.Grounded)
    (hdirectory : session.tree.get? session.directory = some .directory) :
    ((∃ completed, session.init.result = .ok completed) ↔
      session.tree.get? session.configPlace = none ∨ session.Dangles) ∧
    (session.Dangles → ∃ place, place ≠ session.configPlace ∧
      session.tree.Adds place writtenDefaults session.init.tree) ∧
    (session.KeepsPromise ↔ ¬ session.Dangles) := by
  refine ⟨init_ok_iff, (·.exists_adds hgrounded hdirectory), fun hkeeps hdangles => ?_, fun h => ?_⟩
  · obtain ⟨completed, hok⟩ := init_ok_iff.2 (.inr hdangles)
    obtain ⟨target, -, hlink, -, -⟩ := hdangles
    rcases hkeeps with ⟨⟨error, herror⟩, -⟩ | ⟨-, hadds⟩
    · simp [hok] at herror
    · simp [hadds.new] at hlink
  · rcases hresult : session.init.result with error | completed
    · exact .inl ⟨⟨error, hresult⟩, tree_init_of_error hresult⟩
    · have hfree := (init_ok_iff.1 ⟨completed, hresult⟩).resolve_right h
      exact .inr ⟨⟨completed, hresult⟩, adds_of_free hdirectory hfree⟩

/-- A session in a directory `work` that holds a link under the name of the configuration file. -/
def sessionOfLink (target : Text) : Session :=
  { tree := (FileTree.empty.put ["work".toList] .directory).put ["work".toList, fileName] (.link target)
    directory := ["work".toList]
    environment := []
    colour := false }

/-- A link that leads to itself keeps `init` from making a file. -/
theorem init_keepsPromise_loop : (sessionOfLink fileName).KeepsPromise ∧
    (sessionOfLink fileName).init.result = .error (.creation .tooManyLinks) := by
  have hgrounded : (sessionOfLink fileName).tree.Grounded := by decide +kernel
  have hdirectory : (sessionOfLink fileName).tree.get? (sessionOfLink fileName).directory =
      some .directory := by
    decide +kernel
  obtain ⟨-, -, hkeeps⟩ := init_keepsPromise_iff hgrounded hdirectory
  have hlocate : (sessionOfLink fileName).tree.locate .creation (sessionOfLink fileName).directory
      fileName = .error .tooManyLinks := by
    decide +kernel
  refine ⟨hkeeps.2 ?_, by decide +kernel⟩
  rintro ⟨target, place, -, hplace, -⟩
  simp [hlocate] at hplace

/-- Through a link to a name beside the working directory, `init` makes a file there. -/
theorem init_dangling : ¬ (sessionOfLink "../elsewhere.json".toList).KeepsPromise ∧
    (sessionOfLink "../elsewhere.json".toList).init.result = .ok ⟨.creation fileName, 0, false⟩ ∧
    (sessionOfLink "../elsewhere.json".toList).init.tree.get? ["elsewhere.json".toList] =
      some writtenDefaults := by
  have hok : (sessionOfLink "../elsewhere.json".toList).init.result =
      .ok ⟨.creation fileName, 0, false⟩ := by
    decide +kernel
  refine ⟨?_, hok, by decide +kernel⟩
  rintro (⟨⟨error, herror⟩, -⟩ | ⟨-, hadds⟩)
  · rw [hok] at herror
    cases herror
  · have hlink : (sessionOfLink "../elsewhere.json".toList).tree.get?
        (sessionOfLink "../elsewhere.json".toList).configPlace =
          some (.link "../elsewhere.json".toList) := by
      decide +kernel
    rw [hadds.new] at hlink
    cases hlink

end CommandLine
end ExprMigration
