import ExprMigration.Proofs.FileTree.PathOrder
import ExprMigration.Proofs.FileTree.Spelling
import Mathlib.Data.List.Forall2

/-!
# Maps by path

What a map by path says about a path is `PathMap.get?`, which does not depend on the spelling of the
path.  Building a map from a list is described by it (`PathMap.get?_ofList`), and ordered maps that say
the same about every path are the same (`PathMap.Ordered.same_of_get?`).
-/

namespace ExprMigration

/-- A path before another is before every spelling of it. -/
theorem Path.Before.of_same_right {a b c : Text} (h : Before a b) (hsame : same b c) :
    Before a c := by
  rw [before_iff, le, ← same_iff.1 hsame]
  exact before_iff.1 h

namespace PathMap

variable {α : Type} {map a b : PathMap α} {path : Text} {value : α}

/-- The value of a path. -/
def get? : PathMap α → Text → Option α
  | [], _ => none
  | (present, value) :: rest, path => if Path.same present path then some value else get? rest path

/-- Maps with the same values at the same paths, written in whichever way. -/
def Same (a b : PathMap α) : Prop := List.Forall₂ (fun e f => Path.same e.1 f.1 ∧ e.2 = f.2) a b

/-- After `put`, the path has the new value and every other path the one it had. -/
theorem get?_put (map : PathMap α) (path : Text) (value : α) (other : Text) :
    (map.put path value).get? other =
      if Path.same path other then some value else map.get? other := by
  induction map with
  | nil => rfl
  | cons head rest ih =>
    obtain ⟨present, old⟩ := head
    simp only [put]
    split
    · rename_i hpresent
      have hother : Path.same present other = Path.same path other := by
        rw [Path.same, Path.same, Path.same_iff.1 hpresent]
      simp only [get?, hother]
      split <;> rfl
    · rename_i hpresent
      split
      · simp only [get?, ih]
        split
        · rename_i hother
          have hpath : ¬ Path.same path other := fun h =>
            hpresent (Path.same_trans hother (Path.same_symm h))
          rw [if_neg hpath]
        · rfl
      · rfl

theorem exists_mem_of_get? (h : map.get? path = some value) :
    ∃ e ∈ map, Path.same e.1 path ∧ e.2 = value := by
  induction map with
  | nil => simp [get?] at h
  | cons head rest ih =>
    obtain ⟨present, old⟩ := head
    rw [get?] at h
    split at h
    · rename_i hsame
      exact ⟨(present, old), List.mem_cons_self, hsame, Option.some.inj h⟩
    · obtain ⟨e, he, hpath⟩ := ih h
      exact ⟨e, List.mem_cons_of_mem _ he, hpath⟩

theorem get?_eq_none (h : ∀ e ∈ map, ¬ Path.same e.1 path) : map.get? path = none := by
  rcases hget : map.get? path with _ | value
  · rfl
  · obtain ⟨e, he, hsame, -⟩ := exists_mem_of_get? hget
    exact absurd hsame (h e he)

theorem Ordered.get?_of_mem (h : map.Ordered) {e : Text × α} (he : e ∈ map) :
    map.get? e.1 = some e.2 := by
  induction map with
  | nil => simp at he
  | cons head rest ih =>
    obtain ⟨present, old⟩ := head
    obtain ⟨hhead, hrest⟩ := List.pairwise_cons.1 h
    rcases List.mem_cons.1 he with rfl | he
    · simp [get?, Path.same_refl]
    · rw [get?, if_neg (hhead e he).2]
      exact ih hrest he

/-- Where one value is given to each path, a map of values has that value. -/
theorem get?_ofList {values : List (Text × α)}
    (hone : ∀ v ∈ values, ∀ w ∈ values, Path.same v.1 w.1 → v.2 = w.2) :
    (ofList values).get? path = some value ↔
      ∃ v ∈ values, Path.same v.1 path ∧ v.2 = value := by
  -- over any map, what is put in beats what was there
  suffices h : ∀ map : PathMap α,
      (values.foldl (fun map entry => map.put entry.1 entry.2) map).get? path = some value ↔
        (∃ v ∈ values, Path.same v.1 path ∧ v.2 = value) ∨
          (∀ v ∈ values, ¬ Path.same v.1 path) ∧ map.get? path = some value by
    simpa [ofList, get?] using h []
  induction values with
  | nil => simp
  | cons v rest ih =>
    intro map
    obtain ⟨hhead, hrest⟩ := List.forall_mem_cons.1 hone
    rw [List.foldl_cons, ih fun w hw => (List.forall_mem_cons.1 (hrest w hw)).2, get?_put]
    simp only [List.mem_cons, exists_eq_or_imp, forall_eq_or_imp]
    by_cases hsame : Path.same v.1 path
    · simp only [hsame, if_true, true_and, not_true_eq_false, false_and, or_false,
        Option.some.injEq]
      constructor
      · rintro (h | ⟨-, h⟩)
        · exact .inr h
        · exact .inl h
      · rintro (h | h)
        · by_cases hlater : ∃ w ∈ rest, Path.same w.1 path
          · obtain ⟨w, hw, hwsame⟩ := hlater
            have hvalue : v.2 = w.2 := hhead w (List.mem_cons_of_mem _ hw)
              (Path.same_trans hsame (Path.same_symm hwsame))
            exact .inl ⟨w, hw, hwsame, hvalue.symm.trans h⟩
          · exact .inr ⟨fun w hw hwsame => hlater ⟨w, hw, hwsame⟩, h⟩
        · exact .inl h
    · simp [hsame]

theorem exists_mem_of_mem_ofList {values : List (Text × α)} {e : Text × α}
    (he : e ∈ ofList values) : ∃ old, (e.1, old) ∈ values := by
  suffices h : ∀ map : PathMap α,
      e ∈ values.foldl (fun map entry => map.put entry.1 entry.2) map →
        (∃ old, (e.1, old) ∈ values) ∨ ∃ old, (e.1, old) ∈ map by
    simpa using h [] he
  clear he
  induction values with
  | nil => exact fun map he => .inr ⟨e.2, he⟩
  | cons v rest ih =>
    intro map he
    rcases ih (map.put v.1 v.2) he with ⟨old, hold⟩ | ⟨old, hold⟩
    · exact .inl ⟨old, List.mem_cons_of_mem _ hold⟩
    · refine (mem_put hold).imp ?_ id
      intro hpath
      exact ⟨v.2, hpath ▸ List.mem_cons_self⟩

/-- Behind the first path of an ordered map there is no other spelling of it. -/
theorem Ordered.get?_tail {e : Text × α} (h : Ordered (e :: map)) (hsame : Path.same e.1 path) :
    map.get? path = none := by
  obtain ⟨hbehind, -⟩ := List.pairwise_cons.1 h
  refine get?_eq_none fun g hg hsame' => (hbehind g hg).2 ?_
  exact Path.same_trans hsame (Path.same_symm hsame')

/-- An ordered map begins with the least of the paths of which it says something. -/
theorem Ordered.head_least {e : Text × α} (h : Ordered (e :: map))
    (hget : get? (e :: map) path = some value) :
    Path.same e.1 path ∨ Path.Before e.1 path := by
  obtain ⟨g, hg, hsame, -⟩ := exists_mem_of_get? hget
  obtain ⟨hbehind, -⟩ := List.pairwise_cons.1 h
  rcases List.mem_cons.1 hg with rfl | hg
  · exact .inl hsame
  · exact .inr (Path.Before.of_same_right (hbehind g hg) hsame)

/-- Ordered maps that say the same about every path begin with the same path. -/
theorem Ordered.same_head {e f : Text × α} (ha : Ordered (e :: a)) (hb : Ordered (f :: b))
    (h : ∀ path, get? (e :: a) path = get? (f :: b) path) : Path.same e.1 f.1 := by
  have he : get? (f :: b) e.1 = some e.2 := (h e.1).symm.trans (ha.get?_of_mem List.mem_cons_self)
  have hf : get? (e :: a) f.1 = some f.2 := (h f.1).trans (hb.get?_of_mem List.mem_cons_self)
  rcases ha.head_least hf with hsame | hbefore
  · exact hsame
  rcases hb.head_least he with hsame | hbefore'
  · exact Path.same_symm hsame
  · exact absurd hbefore' hbefore.asymm

/-- Ordered maps that say the same about every path are the same. -/
theorem Ordered.same_of_get? (ha : a.Ordered) (hb : b.Ordered)
    (h : ∀ path, a.get? path = b.get? path) : a.Same b := by
  induction a generalizing b with
  | nil =>
    cases b with
    | nil => exact List.Forall₂.nil
    | cons f bs =>
      have hget := hb.get?_of_mem List.mem_cons_self
      rw [← h] at hget
      simp [get?] at hget
  | cons e as ih =>
    cases b with
    | nil =>
      have hget := ha.get?_of_mem List.mem_cons_self
      rw [h] at hget
      simp [get?] at hget
    | cons f bs =>
      have hsame : Path.same e.1 f.1 := ha.same_head hb h
      have hvalue : e.2 = f.2 := by
        have hget := h e.1
        rw [ha.get?_of_mem List.mem_cons_self, get?, if_pos (Path.same_symm hsame)] at hget
        exact Option.some.inj hget
      have hrest : ∀ path, get? as path = get? bs path := by
        intro path
        by_cases hpath : Path.same e.1 path
        · rw [ha.get?_tail hpath, hb.get?_tail (Path.same_trans (Path.same_symm hsame) hpath)]
        · have hpath' : ¬ Path.same f.1 path := fun hf => hpath (Path.same_trans hsame hf)
          have hget := h path
          rwa [get?, if_neg hpath, get?, if_neg hpath'] at hget
      exact .cons ⟨hsame, hvalue⟩
        (ih (List.pairwise_cons.1 ha).2 (List.pairwise_cons.1 hb).2 hrest)

end PathMap

end ExprMigration
