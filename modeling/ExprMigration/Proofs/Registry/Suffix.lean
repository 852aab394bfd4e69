import ExprMigration.Proofs.Registry.LongestStem

/-!
# The variable part of a key

A field family takes a key without the first occurrence of its stem with a dot
(`Family.suffix?_of_field`).  Where the dot follows right behind the stem, that occurrence is at the front
of the key and no search is needed.  `Family.suffix?_eq_removeFirst` says what a family makes of any key.
-/

namespace ExprMigration

/-! ## Texts without a mark -/

namespace Text

variable {t mark rest : Text} {place : Nat} {c : Char}

/-- A text without the first occurrence of `mark`, or the whole text. -/
def removeFirst (mark t : Text) : Text :=
  match cut? mark t with
  | some (before, after) => before ++ after
  | none => t

/-- What is left of a text without the first occurrence of `mark`; all of it if there is none. -/
inductive WithoutFirst (t mark : Text) : Text → Prop
  | removed {place : Nat} (first : FirstAt t mark place) :
    WithoutFirst t mark (t.take place ++ t.drop (place + mark.length))
  | kept (absent : ¬ mark <:+: t) : WithoutFirst t mark t

theorem cut?_append_self (mark rest : Text) : cut? mark (mark ++ rest) = some ([], rest) := by
  have hlead : afterLead? mark (mark ++ rest) = some rest := afterLead?_eq_some_iff.2 rfl
  cases happend : mark ++ rest with
  | nil => rw [cut?, ← happend, hlead, Option.map_some]
  | cons c cs => rw [cut?, ← happend, hlead]

theorem cut?_cons (h : ¬ mark <+: c :: t) :
    cut? mark (c :: t) = (cut? mark t).map fun (before, after) => (c :: before, after) := by
  rw [cut?]
  cases hlead : afterLead? mark (c :: t) with
  | none => rfl
  | some after => exact absurd ⟨after, (afterLead?_eq_some_iff.1 hlead).symm⟩ h

theorem cut?_of_firstAt (h : FirstAt t mark place) :
    cut? mark t = some (t.take place, t.drop (place + mark.length)) := by
  induction t generalizing place with
  | nil =>
    obtain rfl : mark = [] := by simpa using h.1
    simp [cut?, afterLead?]
  | cons c t ih =>
    cases place with
    | zero =>
      obtain ⟨after, hafter⟩ := h.1
      rw [List.drop_zero] at hafter
      rw [← hafter, cut?_append_self]
      simp
    | succ place =>
      have htail : FirstAt t mark place :=
        ⟨h.1, fun earlier hlt => h.2 (earlier + 1) (by omega)⟩
      rw [cut?_cons (h.2 0 (by omega)), ih htail, Option.map_some, Nat.add_right_comm]
      rfl

theorem cut?_eq_none (h : ¬ mark <:+: t) : cut? mark t = none := by
  induction t with
  | nil =>
    have hlead : afterLead? mark [] = none := by
      refine Option.eq_none_iff_forall_ne_some.2 fun after hafter => h ?_
      exact ⟨[], after, (afterLead?_eq_some_iff.1 hafter).symm⟩
    rw [cut?, hlead, Option.map_none]
  | cons c t ih =>
    rw [List.infix_cons_iff, not_or] at h
    rw [cut?_cons h.1, ih h.2, Option.map_none]

theorem removeFirst_of_firstAt (h : FirstAt t mark place) :
    removeFirst mark t = t.take place ++ t.drop (place + mark.length) := by
  rw [removeFirst, cut?_of_firstAt h]

theorem removeFirst_eq_self (h : ¬ mark <:+: t) : removeFirst mark t = t := by
  rw [removeFirst, cut?_eq_none h]

theorem removeFirst_append_self (mark rest : Text) : removeFirst mark (mark ++ rest) = rest := by
  rw [removeFirst, cut?_append_self]
  rfl

theorem withoutFirst_iff : WithoutFirst t mark rest ↔ rest = removeFirst mark t := by
  constructor
  · intro h
    cases h with
    | removed first => exact (removeFirst_of_firstAt first).symm
    | kept absent => exact (removeFirst_eq_self absent).symm
  · rintro rfl
    by_cases hoccurs : mark <:+: t
    · obtain ⟨place, hfirst⟩ := exists_firstAt hoccurs
      rw [removeFirst_of_firstAt hfirst]
      exact .removed hfirst
    · rw [removeFirst_eq_self hoccurs]
      exact .kept hoccurs

theorem WithoutFirst.sublist (h : WithoutFirst t mark rest) : rest.Sublist t := by
  cases h with
  | kept absent => exact List.Sublist.refl t
  | @removed place first =>
    have hbehind : (t.drop (place + mark.length)).Sublist (t.drop place) := by
      rw [← List.drop_drop]
      exact List.drop_sublist _ _
    have hwhole := hbehind.append_left (t.take place)
    rwa [List.take_append_drop] at hwhole

/-- What is left of a text after a search for the bytes of `mark` and two slices around what it finds. -/
structure SplicedOut (t mark rest : Text) : Prop where
  found : ∀ n, FirstByteAt t mark n → SlicesOut t mark n rest
  missed : (∀ n, ¬ FirstByteAt t mark n) → rest = t

/-- A search by bytes with two slices leaves what a search by characters leaves. -/
theorem splicedOut_removeFirst (hmark : mark ≠ []) : SplicedOut t mark (removeFirst mark t) where
  found n hn := by
    obtain ⟨place, hfirst, rfl⟩ := (firstByteAt_iff hmark).1 hn
    rw [removeFirst_of_firstAt hfirst]
    exact slicesOut hfirst.1
  missed hnone := by
    refine removeFirst_eq_self fun hoccurs => ?_
    obtain ⟨place, hfirst⟩ := exists_firstAt hoccurs
    exact hnone _ ((firstByteAt_iff hmark).2 ⟨place, hfirst, rfl⟩)

end Text

/-! ## What a family makes of a key -/

namespace Family

variable {family : Family} {key rest suffix : Text}

theorem suffix?_stem_append (family : Family) (rest : Text) : family.suffix? (family.stem ++ rest) =
    some (if family.isCall then (Text.beforeTail? [')'] rest).getD rest
      else match Text.afterLead? ['.'] rest with
        | some field => field
        | none => Text.removeFirst (family.stem ++ ['.']) (family.stem ++ rest)) := by
  rw [suffix?, Text.afterLead?_eq_some_iff.2 rfl]
  rfl

/-- A call-style family takes what follows its stem without one closing parenthesis at the end. -/
theorem suffix?_of_call (hcall : family.isCall) : family.suffix? (family.stem ++ rest) = some suffix ↔
    rest = suffix ++ [')'] ∨ suffix = rest ∧ ¬ [')'] <:+ rest := by
  rw [suffix?_stem_append, if_pos hcall, Option.some.injEq]
  cases htail : Text.beforeTail? [')'] rest with
  | some inner =>
    obtain rfl : rest = inner ++ [')'] := Text.beforeTail?_eq_some_iff.1 htail
    simp [List.append_cancel_right_eq]
  | none =>
    have hopen : ¬ [')'] <:+ rest := by
      rintro ⟨inner, hinner⟩
      rw [Text.beforeTail?_eq_some_iff.2 hinner.symm] at htail
      cases htail
    have hneither : rest ≠ suffix ++ [')'] := fun h => hopen ⟨suffix, h.symm⟩
    simp [hopen, hneither, eq_comm]

/-- A field family takes a key without the first occurrence of its stem with a dot, whether it has
to search for it or finds it at the front. -/
theorem suffix?_of_field (hfield : ¬ family.isCall) : family.suffix? (family.stem ++ rest) =
    some (Text.removeFirst (family.stem ++ ['.']) (family.stem ++ rest)) := by
  rw [suffix?_stem_append, if_neg hfield]
  cases hdot : Text.afterLead? ['.'] rest with
  | none => rfl
  | some field =>
    obtain rfl : rest = ['.'] ++ field := Text.afterLead?_eq_some_iff.1 hdot
    rw [← List.append_assoc, Text.removeFirst_append_self]

/-- What a family takes out of a key is made of characters of the key, in their order. -/
theorem sublist_of_suffix? (h : family.suffix? key = some suffix) : suffix.Sublist key := by
  obtain ⟨rest, rfl⟩ := stem_prefix_of_suffix? h
  by_cases hcall : family.isCall
  · have hrest : suffix.Sublist rest := by
      rcases (suffix?_of_call hcall).1 h with rfl | ⟨rfl, -⟩
      · exact List.sublist_append_left _ _
      · exact List.Sublist.refl _
    exact hrest.trans (List.sublist_append_right _ _)
  · rw [suffix?_of_field hcall, Option.some.injEq] at h
    exact (Text.withoutFirst_iff.2 h.symm).sublist

/-- A family makes nothing of a key exactly if the key does not begin with its stem.

A call-style family takes what follows its stem without one closing parenthesis at the end, if there is
one.  Every other family takes the key without the first occurrence, anywhere in the key, of its stem with
a dot, or the whole key: where the dot follows right behind the stem, this is what follows the dot.  A
search by bytes finds that occurrence, and both slices around it end between characters of the key. -/
theorem suffix?_eq_removeFirst (family : Family) (key : Text) :
    (family.suffix? key = none ↔ ¬ family.stem <+: key) ∧
    (family.isCall → ∀ rest suffix, key = family.stem ++ rest →
      (family.suffix? key = some suffix ↔
        rest = suffix ++ [')'] ∨ suffix = rest ∧ ¬ [')'] <:+ rest)) ∧
    (¬ family.isCall → family.stem <+: key →
      (∀ suffix, family.suffix? key = some suffix ↔
        Text.WithoutFirst key (family.stem ++ ['.']) suffix) ∧
      family.suffix? key = some (Text.removeFirst (family.stem ++ ['.']) key) ∧
      (∀ field, key = family.stem ++ '.' :: field →
        Text.removeFirst (family.stem ++ ['.']) key = field) ∧
      Text.SplicedOut key (family.stem ++ ['.']) (Text.removeFirst (family.stem ++ ['.']) key)) := by
  refine ⟨suffix?_eq_none_iff, ?call, ?field⟩
  case call =>
    rintro hcall rest suffix rfl
    exact suffix?_of_call hcall
  case field =>
    rintro hfield ⟨rest, rfl⟩
    have hsuffix : family.suffix? (family.stem ++ rest) =
        some (Text.removeFirst (family.stem ++ ['.']) (family.stem ++ rest)) := suffix?_of_field hfield
    refine ⟨fun suffix => ?_, hsuffix, fun field hdirect => ?_, Text.splicedOut_removeFirst (by simp)⟩
    · rw [hsuffix, Option.some.injEq, Text.withoutFirst_iff, eq_comm]
    · rw [hdirect, List.append_cons family.stem '.' field, Text.removeFirst_append_self]

/-- The second of three occurrences of a stem is the first one with a dot, and stands behind a character of
two bytes; of two closing parentheses, one is the call's own. -/
theorem suffix?_eq_removeFirst_defaults :
    (Family.mk "app.defaults".toList (.field "variable".toList)).suffix?
        "app.defaultsé.app.defaults.app.defaults.ü".toList =
      some "app.defaultsé.app.defaults.ü".toList ∧
    Text.SlicesOut "app.defaultsé.app.defaults.app.defaults.ü".toList
      ("app.defaults".toList ++ ['.']) 15 "app.defaultsé.app.defaults.ü".toList ∧
    (Family.mk "secrets.getValue(".toList (.secret .none)).suffix? "secrets.getValue(f(é))".toList =
      some "f(é)".toList := by
  obtain ⟨-, -, hfield⟩ := suffix?_eq_removeFirst (.mk "app.defaults".toList (.field "variable".toList))
    "app.defaultsé.app.defaults.app.defaults.ü".toList
  obtain ⟨-, hcall, -⟩ := suffix?_eq_removeFirst (.mk "secrets.getValue(".toList (.secret .none))
    "secrets.getValue(f(é))".toList
  obtain ⟨-, hsuffix, -, hspliced⟩ := hfield (by decide) (by decide)
  have hleft : Text.removeFirst ("app.defaults".toList ++ ['.'])
      "app.defaultsé.app.defaults.app.defaults.ü".toList = "app.defaultsé.app.defaults.ü".toList := by
    decide +kernel
  rw [hleft] at hsuffix hspliced
  refine ⟨hsuffix, hspliced.found 15 ⟨by decide, by decide⟩, ?_⟩
  exact (hcall (by decide) "f(é))".toList _ rfl).2 (.inl rfl)

end Family
end ExprMigration
