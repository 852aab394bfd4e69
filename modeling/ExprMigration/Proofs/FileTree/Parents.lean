import ExprMigration.Config.Search
import ExprMigration.Proofs.FileTree.Relative
import Mathlib.Data.List.DropRight

/-!
# Paths above a path

The path above a path has its components but for the last one (`Path.components_of_parent?`), and only
the empty path and the root have none above them (`Path.parent?_eq_none_iff`).  So there is one way up
from a path, it comes to an end (`Path.ascends_iff`), and no two paths on it are the same
(`Path.Ascends.eq_of_components`).
-/

namespace ExprMigration
namespace Path

variable {path above first last : Text} {parts rest init kept chain chain' : List Text}

/-! ## Components by parts -/

/-- The components that the first part of a path stands for, before the other parts. -/
def leading (first : Text) (rest : List Text) : List Component :=
  if first = [] then (if rest = [] then [] else [.root])
  else if first = ['.'] then [.here]
  else (Component.ofPart? first).toList

theorem components_of_splitOn (h : path.splitOn '/' = first :: rest) :
    components path = leading first rest ++ rest.filterMap Component.ofPart? := by
  rw [components, h, leading]
  by_cases hnil : first = []
  · by_cases hrest : rest = [] <;> simp [hnil, hrest]
  · by_cases hhere : first = ['.'] <;> simp [hnil, hhere]

theorem ofPart?_ne_root (part : Text) : Component.ofPart? part ≠ some .root := by
  rw [Component.ofPart?]
  split
  · simp
  · split <;> simp

theorem exists_leading (hfirst : first ≠ []) (rest : List Text) :
    ∃ component, leading first rest = [component] ∧ component ≠ .root := by
  by_cases hhere : first = ['.']
  · exact ⟨.here, by simp [leading, hhere]⟩
  · by_cases hup : first = ['.', '.'] <;> simp [leading, Component.ofPart?, hfirst, hhere, hup]

theorem length_leading_le (first : Text) (rest : List Text) : (leading first rest).length ≤ 1 := by
  rw [leading]
  split
  · split <;> simp
  · split
    · simp
    · cases Component.ofPart? first <;> simp

theorem length_components_le (path : Text) : (components path).length ≤ path.length + 1 := by
  rcases hsplit : path.splitOn '/' with _ | ⟨first, rest⟩
  · exact absurd hsplit (Text.splitOn_ne_nil '/' path)
  have hlead := length_leading_le first rest
  have hinner := List.length_filterMap_le Component.ofPart? rest
  have hparts := Text.length_splitOn_le '/' path
  rw [hsplit, List.length_cons] at hparts
  rw [components_of_splitOn hsplit, List.length_append]
  omega

/-! ## Idle parts at the end -/

theorem dropIdleEnd_eq (parts : List Text) :
    dropIdleEnd parts = parts.rdropWhile fun part => (Component.ofPart? part).isNone := rfl

theorem filterMap_dropIdleEnd (parts : List Text) :
    (dropIdleEnd parts).filterMap Component.ofPart? = parts.filterMap Component.ofPart? := by
  induction parts using List.reverseRecOn with
  | nil => rfl
  | append_singleton parts part ih =>
    rcases hpart : Component.ofPart? part with _ | component
    · rw [dropIdleEnd_eq, List.rdropWhile_concat_pos _ _ _ (by simp [hpart]), ← dropIdleEnd_eq, ih]
      simp [hpart]
    · rw [dropIdleEnd_eq, List.rdropWhile_concat_neg _ _ _ (by simp [hpart])]

theorem isSome_of_dropIdleEnd (h : dropIdleEnd parts = init ++ [last]) :
    (Component.ofPart? last).isSome := by
  have hlast := List.rdropWhile_last_not (fun part => (Component.ofPart? part).isNone) parts
    (by simp [← dropIdleEnd_eq, h])
  simpa [← dropIdleEnd_eq, h, Option.isSome_iff_ne_none] using hlast

theorem dropIdleEnd_subset (parts : List Text) : dropIdleEnd parts ⊆ parts := by
  have hprefix := List.rdropWhile_prefix (fun part => (Component.ofPart? part).isNone) parts
  exact hprefix.subset

/-! ## The path above -/

/-- The path that is written by a first part and the others. -/
def ofParts (first : Text) : List Text → Text
  | [] => if first = [] then ['/'] else first
  | part :: rest => Text.join ['/'] (first :: part :: rest)

theorem components_ofParts (hparts : ∀ part ∈ first :: kept, '/' ∉ part) (hrest : rest ≠ []) :
    components (ofParts first kept) = leading first rest ++ kept.filterMap Component.ofPart? := by
  rcases kept with _ | ⟨part, kept⟩
  · by_cases hfirst : first = []
    · subst hfirst
      simp [ofParts, leading, hrest]
      rfl
    · have hsplit : first.splitOn '/' = [first] :=
        Text.splitOn_of_notMem (hparts first List.mem_cons_self)
      simp [ofParts, leading, components_of_splitOn hsplit, hfirst]
  · rw [ofParts, components_of_splitOn (Text.splitOn_join (by simp) hparts)]
    simp [leading, hrest]

/-- What is above a path whose parts end with `init` and one that stands for a component. -/
theorem parent?_of_splitOn (hsplit : path.splitOn '/' = first :: rest)
    (hrest : dropIdleEnd rest = init ++ [last]) :
    parent? path = some (ofParts first (dropIdleEnd init)) := by
  obtain ⟨part, more, hparts⟩ : ∃ part more, dropIdleEnd rest = part :: more :=
    List.exists_cons_of_ne_nil (by simp [hrest])
  have hinit : (part :: more).dropLast = init := by simp [← hparts, hrest]
  simp only [parent?, hsplit, hparts, hinit]
  cases dropIdleEnd init <;> rfl

theorem slash_notMem_of_dropIdleEnd (hsplit : path.splitOn '/' = first :: rest)
    (hrest : dropIdleEnd rest = init ++ [last]) :
    ∀ part ∈ first :: dropIdleEnd init, '/' ∉ part := by
  intro part hpart
  refine Text.notMem_of_mem_splitOn (t := path) ?_
  rw [hsplit]
  rcases List.mem_cons.1 hpart with rfl | hpart
  · exact List.mem_cons_self
  · have hinit := dropIdleEnd_subset init hpart
    refine List.mem_cons_of_mem _ (dropIdleEnd_subset rest ?_)
    rw [hrest]
    exact List.mem_append_left _ hinit

/-- The three forms of a path: nothing, the root or one component, or more. -/
theorem parent?_cases (path : Text) :
    parent? path = none ∧ (components path = [] ∨ components path = [.root]) ∨
      ∃ above last, parent? path = some above ∧ components path = components above ++ [last] ∧
        last ≠ .root := by
  rcases hsplit : path.splitOn '/' with _ | ⟨first, rest⟩
  · exact absurd hsplit (Text.splitOn_ne_nil '/' path)
  have hcomponents := components_of_splitOn hsplit
  rw [← filterMap_dropIdleEnd] at hcomponents
  rcases List.eq_nil_or_concat' (dropIdleEnd rest) with hrest | ⟨init, last, hrest⟩
  · by_cases hfirst : first = []
    · refine .inl ⟨by simp [parent?, hsplit, hrest, hfirst], ?_⟩
      rw [hcomponents, hrest, leading, if_pos hfirst]
      split <;> simp
    · obtain ⟨component, hlead, hroot⟩ := exists_leading hfirst rest
      have hnone : components [] = [] := rfl
      exact .inr ⟨[], component, by simp [parent?, hsplit, hrest, hfirst],
        by simp [hcomponents, hrest, hlead, hnone], hroot⟩
  · obtain ⟨component, hcomponent⟩ := Option.isSome_iff_exists.1 (isSome_of_dropIdleEnd hrest)
    have hne : rest ≠ [] := by
      rintro rfl
      simp [dropIdleEnd_eq] at hrest
    have habove := components_ofParts (slash_notMem_of_dropIdleEnd hsplit hrest) hne
    refine .inr ⟨_, component, parent?_of_splitOn hsplit hrest, ?_,
      fun hroot => ofPart?_ne_root last (hroot ▸ hcomponent)⟩
    rw [habove, hcomponents, hrest, filterMap_dropIdleEnd init]
    simp [hcomponent]

theorem components_of_parent? (h : parent? path = some above) :
    ∃ last, components path = components above ++ [last] := by
  obtain ⟨hnone, -⟩ | ⟨above', last, habove, hcomponents, -⟩ := parent?_cases path
  · simp [hnone] at h
  · obtain rfl : above' = above := by simpa [habove] using h
    exact ⟨last, hcomponents⟩

/-- Only the empty path and the root have none above them. -/
theorem parent?_eq_none_iff :
    parent? path = none ↔ components path = [] ∨ components path = [.root] := by
  obtain ⟨hnone, hcomponents⟩ | ⟨above, last, habove, hcomponents, hroot⟩ := parent?_cases path
  · exact iff_of_true hnone hcomponents
  · refine iff_of_false (by simp [habove]) ?_
    simp [hcomponents, List.append_eq_singleton_iff, hroot]

/-! ## The way up -/

/-- The way up from a path: the path and those above it, one step after the other, to the top. -/
inductive Ascends : Text → List Text → Prop
  | top {path : Text} (htop : parent? path = none) : Ascends path [path]
  | up {path above : Text} {chain : List Text} (hup : parent? path = some above)
      (hchain : Ascends above chain) : Ascends path (path :: chain)

theorem Ascends.unique (h : Ascends path chain) (h' : Ascends path chain') : chain = chain' := by
  induction h generalizing chain' with
  | top htop =>
    cases h' with
    | top => rfl
    | up hup => simp [htop] at hup
  | up hup _ ih =>
    cases h' with
    | top htop => simp [htop] at hup
    | up hup' hchain' =>
      obtain rfl : _ = _ := Option.some_inj.1 (hup.symm.trans hup')
      rw [ih hchain']

theorem ascends_upwardsFrom {count : Nat} (h : (components path).length ≤ count) :
    Ascends path (upwardsFrom count path) := by
  induction count generalizing path with
  | zero =>
    have hcomponents : components path = [] := List.length_eq_zero_iff.1 (Nat.le_zero.1 h)
    exact .top (parent?_eq_none_iff.2 (.inl hcomponents))
  | succ count ih =>
    rcases hparent : parent? path with _ | above
    · simpa [upwardsFrom, hparent] using Ascends.top hparent
    · obtain ⟨last, hcomponents⟩ := components_of_parent? hparent
      have hcount : (components above).length ≤ count := by
        simp only [hcomponents, List.length_append, List.length_singleton] at h
        omega
      simpa [upwardsFrom, hparent] using Ascends.up hparent (ih hcount)

/-- There is one way up from a path. -/
theorem ascends_iff : Ascends path chain ↔ chain = upwards path := by
  have hupwards : Ascends path (upwards path) := ascends_upwardsFrom (length_components_le path)
  exact ⟨fun h => h.unique hupwards, fun h => h ▸ hupwards⟩

theorem Ascends.of_append {place : Text} {below more : List Text}
    (h : Ascends path (below ++ place :: more)) : Ascends place (place :: more) := by
  induction below generalizing path with
  | nil => cases h <;> constructor <;> assumption
  | cons lower below ih =>
    rw [List.cons_append] at h
    generalize hrest : below ++ place :: more = rest at h
    cases h with
    | top => simp at hrest
    | up hup hchain => exact ih (hrest ▸ hchain)

theorem Ascends.length_le (h : Ascends path chain) :
    ∀ place ∈ chain, (components place).length ≤ (components path).length := by
  induction h with
  | top => simp
  | up hup _ ih =>
    obtain ⟨last, hcomponents⟩ := components_of_parent? hup
    refine List.forall_mem_cons.2 ⟨le_rfl, fun place hplace => (ih place hplace).trans ?_⟩
    simp [hcomponents]

theorem Ascends.length_lt (h : Ascends above chain) (hup : parent? path = some above) :
    ∀ place ∈ chain, (components place).length < (components path).length := by
  intro place hplace
  obtain ⟨last, hcomponents⟩ := components_of_parent? hup
  have hle := h.length_le place hplace
  simp only [hcomponents, List.length_append, List.length_singleton]
  omega

/-- Each step up takes a component away, so that no path comes back. -/
theorem Ascends.eq_of_components {p q : Text} (h : Ascends path chain) (hp : p ∈ chain)
    (hq : q ∈ chain) (hcomponents : components p = components q) : p = q := by
  induction h with
  | top => rw [List.mem_singleton.1 hp, List.mem_singleton.1 hq]
  | up hup hchain ih =>
    have hlt := hchain.length_lt hup
    rcases List.mem_cons.1 hp with rfl | hp' <;> rcases List.mem_cons.1 hq with rfl | hq'
    · rfl
    · exact absurd (hcomponents ▸ hlt q hq') (lt_irrefl _)
    · exact absurd (hcomponents ▸ hlt p hp') (lt_irrefl _)
    · exact ih hp' hq'

end Path
end ExprMigration
