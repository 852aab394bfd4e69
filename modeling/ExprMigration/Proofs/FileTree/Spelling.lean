import ExprMigration.Proofs.FileTree.Continuation

/-!
# Spellings of one path

What a path says is its route: its steps without the idle ones, from the root of the tree or from the
working directory.  The components of a path fix its route (`route_eq`).  Idle steps within a path do
not count, and one at its end can only make it lead nowhere (`travel_route`), so that all spellings of
one path that lead anywhere lead to one place (`locate_eq_of_same`) and all that can be read have one
text (`read_eq_of_same`).
-/

namespace ExprMigration

/-! ## Routes -/

namespace Path

variable {p q r : Text}

theorem same_iff : same p q ↔ components p = components q := beq_iff_eq

theorem same_refl (p : Text) : same p p := same_iff.2 rfl

theorem same_symm (h : same p q) : same q p := same_iff.2 (same_iff.1 h).symm

theorem same_trans (hpq : same p q) (hqr : same q r) : same p r :=
  same_iff.2 ((same_iff.1 hpq).trans (same_iff.1 hqr))

end Path

/-- The step that a component of a path makes. -/
def Component.step? : Component → Option FileTree.Step
  | .root | .here => none
  | .up => some .up
  | .name part => some (.down part)

namespace FileTree

/-- The steps of a way that go somewhere. -/
def route (way : List Step) : List Step := way.filter fun step => !step.isIdle

theorem route_append (way more : List Step) : route (way ++ more) = route way ++ route more :=
  List.filter_append _ _

theorem route_steps (path : Text) : route (steps path) = route (way path) := by
  have hslash : route (if path.getLast? = some '/' then [Step.slash] else []) = [] := by
    split <;> rfl
  rw [steps, route_append, hslash, List.append_nil, way]

/-- A part of a path makes the step of the component that it stands for. -/
theorem route_parts (parts : List Text) :
    route ((parts.filter (· ≠ [])).map Step.ofPart) =
      (parts.filterMap Component.ofPart?).filterMap Component.step? := by
  induction parts with
  | nil => rfl
  | cons part rest ih =>
    by_cases hempty : part = []
    · have hpart : Component.ofPart? part = none := by simp [Component.ofPart?, hempty]
      rw [List.filter_cons_of_neg (by simpa using hempty), ih, List.filterMap_cons_none hpart]
    · rw [List.filter_cons_of_pos (by simpa using hempty), List.map_cons, ← List.singleton_append,
        route_append, ih]
      by_cases hdot : part = ['.']
      · simp [hdot, Step.ofPart, Component.ofPart?, route, Step.isIdle]
      · by_cases hdots : part = ['.', '.']
        · simp [hdots, Step.ofPart, Component.ofPart?, route, Step.isIdle, Component.step?]
        · simp [hempty, hdot, hdots, Step.ofPart, Component.ofPart?, route, Step.isIdle,
            Component.step?]

/-- The route of a path can be read off its components. -/
theorem route_eq (path : Text) :
    route (steps path) = (Path.components path).filterMap Component.step? := by
  rw [route_steps, way, Path.components, route_parts]
  rcases path.splitOn '/' with _ | ⟨first, rest⟩
  · rfl
  by_cases hempty : first = []
  · by_cases hrest : rest = [] <;>
      simp [hempty, hrest, Component.ofPart?, List.filterMap_cons, Component.step?]
  · by_cases hhere : first = ['.']
    · simp [hhere, Component.ofPart?, List.filterMap_cons, Component.step?]
    · cases hpart : Component.ofPart? first <;>
        simp [hempty, hhere, hpart, List.filterMap_cons]

theorem isAbsolute_iff (path : Text) :
    Path.isAbsolute path ↔ (Path.components path).head? = some .root := by
  cases path with
  | nil => simp [Path.isAbsolute, Path.components, Text.splitOn]
  | cons c cs =>
    rcases hsplit : Text.splitOn '/' cs with _ | ⟨part, parts⟩
    · exact absurd hsplit (Text.splitOn_ne_nil '/' cs)
    by_cases hc : c = '/'
    · simp [Path.isAbsolute, Path.components, Text.splitOn, hsplit, hc]
    · -- the first part begins with `c`, so it is none of those that stand for the root
      have hfirst : Text.splitOn '/' (c :: cs) = (c :: part) :: parts := by
        simp [Text.splitOn, hsplit, hc]
      by_cases hhere : c :: part = ['.']
      · simp [Path.isAbsolute, Path.components, hfirst, hc, hhere]
      · by_cases hup : c :: part = ['.', '.'] <;>
          simp [Path.isAbsolute, Path.components, hfirst, hc, hhere, hup, Component.ofPart?]

/-- Spellings of one path have one route, from one origin. -/
theorem route_of_same {p q : Text} (h : Path.same p q) (directory : Location) :
    route (steps p) = route (steps q) ∧ origin directory p = origin directory q := by
  have hcomponents := Path.same_iff.1 h
  refine ⟨by rw [route_eq, route_eq, hcomponents], ?_⟩
  simp only [origin, isAbsolute_iff, hcomponents]

/-! ## Idle steps -/

section Travel

variable {tree : FileTree} {purpose : Purpose} {here place : Location} {before way : List Step}
  {idle : Step}

/-- A way is its route, with the idle step that it may end with. -/
theorem travel_eq_route (tree : FileTree) (hpurpose : purpose ≠ .creation) (links : Nat)
    (here : Location) (way : List Step) :
    tree.travel purpose links here way = tree.travel purpose links here (route way) ∨
      ∃ idle : Step, idle.isIdle ∧ way.getLast? = some idle ∧
        tree.travel purpose links here way =
          tree.travel purpose links here (route way ++ [idle]) := by
  -- what stands in front of the rest of the way grows by the steps that count
  suffices h : ∀ before, tree.travel purpose links here (before ++ way) =
        tree.travel purpose links here (before ++ route way) ∨
      ∃ idle : Step, idle.isIdle ∧ way.getLast? = some idle ∧
        tree.travel purpose links here (before ++ way) =
          tree.travel purpose links here (before ++ (route way ++ [idle])) from h []
  induction way with
  | nil => exact fun before => .inl rfl
  | cons step rest ih =>
    intro before
    by_cases hidle : step.isIdle
    · have hroute : route (step :: rest) = route rest := by simp [route, hidle]
      rw [hroute]
      by_cases hrest : rest = []
      · subst hrest
        exact .inr ⟨step, hidle, rfl, rfl⟩
      · rw [tree.travel_idle hpurpose hidle links here before hrest, List.getLast?_cons_of_ne_nil hrest]
        exact ih before
    · have hroute : route (step :: rest) = step :: route rest := by simp [route, hidle]
      rw [hroute]
      have hshift := ih (before ++ [step])
      simp only [List.append_assoc, List.singleton_append] at hshift
      refine hshift.imp_right ?_
      rintro ⟨idle, hisIdle, hlast, heq⟩
      refine ⟨idle, hisIdle, ?_, heq⟩
      rw [List.getLast?_cons, hlast]
      rfl

/-- An idle step behind a way does not lead elsewhere. -/
theorem advance_append_idle (hidle : idle.isIdle) :
    (∀ place, tree.advance .content here (before ++ [idle]) = .at place →
      tree.advance .content here before = .at place) ∧
    ∀ place target rest, tree.advance .content here (before ++ [idle]) = .link place target rest →
      ∃ rest', rest = rest' ++ [idle] ∧
        tree.advance .content here before = .link place target rest' := by
  induction before generalizing here with
  | nil =>
    cases idle with
    | stay => exact ⟨fun place h => h, by simp [advance]⟩
    | slash => exact ⟨fun place h => h, by simp [advance]⟩
    | up => simp [Step.isIdle] at hidle
    | down name => simp [Step.isIdle] at hidle
  | cons step more ih =>
    cases step with
    | stay => exact ih
    | slash => exact ih
    | up => exact ih
    | down name =>
      simp only [List.cons_append, advance]
      by_cases hlong : nameLimit < Text.utf8Size name
      · simp [hlong]
      · rcases tree.get? (here ++ [name]) with _ | (_ | _ | target)
        -- behind a name with the idle step after it there has to be a directory or a link
        · simp [hlong]
        · simp [hlong]
        · simpa [hlong] using ih
        · simp only [hlong, reduceCtorEq, and_false, false_and, if_false]
          refine ⟨by simp, fun place target' rest h => ?_⟩
          cases h
          exact ⟨more, rfl, rfl⟩

theorem travel_append_idle {links : Nat} (hidle : idle.isIdle)
    (h : tree.travel .content links here (before ++ [idle]) = .ok place) :
    tree.travel .content links here before = .ok place := by
  induction links using Nat.strongRecOn generalizing here before with
  | ind links ih =>
    rcases travel_cases h with hstop | ⟨left, there, target, rest, rfl, hstop, hrest⟩
    · exact travel_of_advance_at ((advance_append_idle hidle).1 _ hstop) links
    · obtain ⟨rest', rfl, hbefore⟩ := (advance_append_idle hidle).2 _ _ _ hstop
      rw [travel_of_advance_link hbefore]
      exact ih left (Nat.lt_succ_self left) (by rwa [List.append_assoc])

/-- A way that leads somewhere leads there by its route. -/
theorem travel_route {links : Nat} (h : tree.travel .content links here way = .ok place) :
    tree.travel .content links here (route way) = .ok place := by
  have hpurpose : Purpose.content ≠ .creation := by decide
  rcases tree.travel_eq_route hpurpose links here way with heq | ⟨idle, hidle, _, heq⟩
  · rwa [← heq]
  · exact travel_append_idle hidle (heq ▸ h)

end Travel

/-! ## Where spellings lead -/

section Same

variable {tree : FileTree} {directory place place' : Location} {p q : Text}

theorem travel_route_of_locate (h : tree.locate .content directory p = .ok place) :
    tree.travel .content linkLimit (origin directory p) (route (steps p)) = .ok place :=
  travel_route (travel_of_locate h)

/-- Spellings of one path that lead anywhere lead to one place. -/
theorem locate_eq_of_same (h : Path.same p q)
    (hp : tree.locate .content directory p = .ok place)
    (hq : tree.locate .content directory q = .ok place') : place = place' := by
  have hroute := travel_route_of_locate hp
  obtain ⟨hsteps, horigin⟩ := route_of_same h directory
  rw [hsteps, horigin, travel_route_of_locate hq] at hroute
  exact (Except.ok.inj hroute).symm

/-- Spellings of one path that can be read have one text. -/
theorem read_eq_of_same {s t : Text} (h : Path.same p q) (hp : tree.read directory p = .ok s)
    (hq : tree.read directory q = .ok t) : s = t := by
  obtain ⟨place, hlocate, hget⟩ := read_eq_ok_iff.1 hp
  obtain ⟨place', hlocate', hget'⟩ := read_eq_ok_iff.1 hq
  obtain rfl := locate_eq_of_same h hlocate hlocate'
  simpa using hget.symm.trans hget'

end Same

end FileTree
end ExprMigration
