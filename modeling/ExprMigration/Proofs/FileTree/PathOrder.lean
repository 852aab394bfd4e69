import ExprMigration.Corpus

/-!
# The order of paths

Components are ordered linearly, and so are lists of components: `Path.componentsLe` is the
lexicographic order.  On paths this makes a linear order up to `Path.same`, whose strict part is
`Path.Before`.  A map by path holds its paths in that order (`PathMap.Ordered`), however it was built.
-/

namespace ExprMigration

/-! ## Components -/

namespace Component

variable {a b c : Component}

theorem lt_irrefl (a : Component) : a.lt a = false := by
  cases a <;> simp [lt]

theorem lt_trans (hab : a.lt b) (hbc : b.lt c) : a.lt c := by
  cases a <;> cases b <;> cases c <;> simp_all [lt, rank]
  exact List.lt_trans hab hbc

theorem lt_asymm (hab : a.lt b) : b.lt a = false := by
  rw [Bool.eq_false_iff]
  intro hba
  have haa := lt_trans hab hba
  simp [lt_irrefl] at haa

theorem lt_trichotomy (a b : Component) : a.lt b ∨ a = b ∨ b.lt a := by
  cases a <;> cases b <;> simp [lt, rank]
  exact Std.lt_trichotomy _ _

end Component

namespace Path

/-! ## Lists of components -/

variable {as bs cs : List Component}

theorem componentsLe_refl (as : List Component) : componentsLe as as := by
  induction as with
  | nil => rfl
  | cons a as ih => simp [componentsLe, ih]

theorem componentsLe_cons {a b : Component} :
    componentsLe (a :: as) (b :: bs) ↔ a.lt b ∨ a = b ∧ componentsLe as bs := by
  simp [componentsLe]

theorem componentsLe_trans (hab : componentsLe as bs) (hbc : componentsLe bs cs) :
    componentsLe as cs := by
  induction as generalizing bs cs with
  | nil => rfl
  | cons a as ih =>
    cases bs with
    | nil => simp [componentsLe] at hab
    | cons b bs =>
      cases cs with
      | nil => simp [componentsLe] at hbc
      | cons c cs =>
        rw [componentsLe_cons] at hab hbc ⊢
        rcases hab with hab | ⟨rfl, hab⟩
        · rcases hbc with hbc | ⟨rfl, -⟩
          · exact .inl (Component.lt_trans hab hbc)
          · exact .inl hab
        · rcases hbc with hbc | ⟨rfl, hbc⟩
          · exact .inl hbc
          · exact .inr ⟨rfl, ih hab hbc⟩

theorem componentsLe_antisymm (hab : componentsLe as bs) (hba : componentsLe bs as) : as = bs := by
  induction as generalizing bs with
  | nil =>
    cases bs with
    | nil => rfl
    | cons b bs => simp [componentsLe] at hba
  | cons a as ih =>
    cases bs with
    | nil => simp [componentsLe] at hab
    | cons b bs =>
      rw [componentsLe_cons] at hab hba
      rcases hab with hab | ⟨rfl, hab⟩
      · rcases hba with hba | ⟨rfl, -⟩
        · simp [Component.lt_asymm hab] at hba
        · simp [Component.lt_irrefl] at hab
      · rcases hba with hba | ⟨-, hba⟩
        · simp [Component.lt_irrefl] at hba
        · rw [ih hab hba]

theorem componentsLe_total (as bs : List Component) : componentsLe as bs ∨ componentsLe bs as := by
  induction as generalizing bs with
  | nil => exact .inl rfl
  | cons a as ih =>
    cases bs with
    | nil => exact .inr rfl
    | cons b bs =>
      rw [componentsLe_cons, componentsLe_cons]
      rcases Component.lt_trichotomy a b with hlt | rfl | hgt
      · exact .inl (.inl hlt)
      · exact (ih bs).imp (fun h => .inr ⟨rfl, h⟩) (fun h => .inr ⟨rfl, h⟩)
      · exact .inr (.inl hgt)

/-! ## Paths -/

/-- A path comes strictly before another. -/
def Before (a b : Text) : Prop := le a b ∧ ¬ same a b

instance (a b : Text) : Decidable (Before a b) := inferInstanceAs (Decidable (_ ∧ _))

variable {a b c : Text}

theorem before_irrefl (a : Text) : ¬ Before a a := by
  simp [Before, same]

theorem before_iff : Before a b ↔ ¬ le b a := by
  constructor
  · rintro ⟨hab, hsame⟩ hba
    exact hsame (beq_iff_eq.2 (componentsLe_antisymm hab hba))
  · intro hba
    refine ⟨(componentsLe_total _ _).resolve_right hba, fun hsame => hba ?_⟩
    rw [le, ← beq_iff_eq.1 hsame]
    exact componentsLe_refl _

theorem Before.trans (hab : Before a b) (hbc : Before b c) : Before a c := by
  rw [before_iff] at hbc ⊢
  exact fun hca => hbc (componentsLe_trans hca hab.1)

theorem Before.asymm (hab : Before a b) : ¬ Before b a :=
  fun hba => before_irrefl a (hab.trans hba)

instance : Std.Irrefl Before := ⟨before_irrefl⟩

instance : Std.Antisymm Before := ⟨fun _ _ hab hba => absurd hba hab.asymm⟩

end Path

/-! ## Maps by path -/

namespace PathMap

variable {α : Type} {map : PathMap α} {path : Text}

/-- The paths of a map stand in their order, each of them once. -/
def Ordered (map : PathMap α) : Prop := map.Pairwise fun a b => Path.Before a.1 b.1

theorem mem_put {value : α} {e : Text × α} (h : e ∈ map.put path value) :
    e.1 = path ∨ ∃ old, (e.1, old) ∈ map := by
  induction map with
  | nil =>
    obtain rfl : e = (path, value) := by simpa [put] using h
    exact .inl rfl
  | cons head rest ih =>
    obtain ⟨present, old⟩ := head
    simp only [put] at h
    split at h
    · rcases List.mem_cons.1 h with rfl | h
      · exact .inr ⟨old, List.mem_cons_self⟩
      · exact .inr ⟨e.2, List.mem_cons_of_mem _ h⟩
    · split at h
      · rcases List.mem_cons.1 h with rfl | h
        · exact .inr ⟨old, List.mem_cons_self⟩
        · refine (ih h).imp_right ?_
          rintro ⟨was, hwas⟩
          exact ⟨was, List.mem_cons_of_mem _ hwas⟩
      · rcases List.mem_cons.1 h with rfl | h
        · exact .inl rfl
        · exact .inr ⟨e.2, h⟩

theorem Ordered.put (h : map.Ordered) (path : Text) (value : α) : (map.put path value).Ordered := by
  induction map with
  | nil => exact List.pairwise_singleton _ _
  | cons head rest ih =>
    obtain ⟨present, old⟩ := head
    obtain ⟨hhead, hrest⟩ := List.pairwise_cons.1 h
    simp only [PathMap.put]
    split
    · exact List.pairwise_cons.2 ⟨hhead, hrest⟩
    · rename_i hsame
      split
      · rename_i hle
        refine List.pairwise_cons.2 ⟨fun e he => ?_, ih hrest⟩
        rcases mem_put he with heq | ⟨was, hwas⟩
        · rw [heq]
          exact ⟨hle, hsame⟩
        · exact hhead (e.1, was) hwas
      · rename_i hle
        have hbefore : Path.Before path present := Path.before_iff.2 hle
        refine List.pairwise_cons.2 ⟨List.forall_mem_cons.2 ⟨hbefore, fun e he => ?_⟩, h⟩
        exact hbefore.trans (hhead e he)

theorem Ordered.foldl_put (h : map.Ordered) (values : List (Text × α)) :
    (values.foldl (fun map entry => map.put entry.1 entry.2) map).Ordered := by
  induction values generalizing map with
  | nil => exact h
  | cons entry rest ih => exact ih (h.put entry.1 entry.2)

theorem ordered_ofList (values : List (Text × α)) : (ofList values).Ordered :=
  Ordered.foldl_put List.Pairwise.nil values

/-- What stands in front of an entry of an ordered map is what has a path before it. -/
theorem Ordered.filter_before {front rest : PathMap α} {e : Text × α}
    (h : Ordered (front ++ e :: rest)) :
    ((front ++ e :: rest).filter fun f => Path.Before f.1 e.1) = front := by
  obtain ⟨-, hrest, hacross⟩ := List.pairwise_append.1 h
  obtain ⟨hbehind, -⟩ := List.pairwise_cons.1 hrest
  rw [List.filter_append, List.filter_eq_self.2, List.filter_eq_nil_iff.2, List.append_nil]
  · refine List.forall_mem_cons.2 ⟨by simpa using Path.before_irrefl e.1, fun f hf => ?_⟩
    simpa using (hbehind f hf).asymm
  · intro f hf
    simpa using hacross f hf e List.mem_cons_self

end PathMap

end ExprMigration
