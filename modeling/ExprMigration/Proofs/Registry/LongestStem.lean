import ExprMigration.Catalog
import ExprMigration.Proofs.Text.Boundary
import Mathlib.Data.List.Nodup

/-!
# The longest stem

A family takes exactly the keys that begin with its stem (`Family.isSome_suffix?_iff`), and the first
family that takes a key is tried before all others that do.  So a registry finds the family with the
longest stem that begins a key (`Registry.find?_ofFamilies_eq_some_iff`), which does not depend on the
order in which the families were given to it.
-/

namespace ExprMigration

/-! ## Families that take a key -/

namespace Family

variable {family a b c : Family} {key suffix : Text}

/-- A family takes a key exactly if the key begins with its stem. -/
theorem isSome_suffix?_iff : (family.suffix? key).isSome ↔ family.stem <+: key := by
  rw [suffix?, Option.isSome_map]
  constructor
  · intro h
    obtain ⟨rest, hrest⟩ := Option.isSome_iff_exists.1 h
    exact ⟨rest, (Text.afterLead?_eq_some_iff.1 hrest).symm⟩
  · rintro ⟨rest, hrest⟩
    rw [Text.afterLead?_eq_some_iff.2 hrest.symm]
    rfl

theorem suffix?_eq_none_iff : family.suffix? key = none ↔ ¬ family.stem <+: key := by
  rw [← isSome_suffix?_iff, Option.not_isSome_iff_eq_none]

theorem stem_prefix_of_suffix? (h : family.suffix? key = some suffix) : family.stem <+: key :=
  isSome_suffix?_iff.1 (by rw [h]; rfl)

theorem before_iff : before a b ↔ Text.utf8Size b.stem < Text.utf8Size a.stem ∨
    Text.utf8Size a.stem = Text.utf8Size b.stem ∧ ¬ b.stem < a.stem := by
  simp [before]

theorem before_trans (hab : before a b) (hbc : before b c) : before a c := by
  rw [before_iff] at hab hbc ⊢
  rcases hab with hab | ⟨hab, hle⟩
  · rcases hbc with hbc | ⟨hbc, -⟩
    · exact .inl (by omega)
    · exact .inl (by omega)
  · rcases hbc with hbc | ⟨hbc, hle'⟩
    · exact .inl (by omega)
    · refine .inr ⟨hab.trans hbc, List.not_lt.2 ?_⟩
      exact List.le_trans (List.not_lt.1 hle) (List.not_lt.1 hle')

theorem before_total (a b : Family) : before a b ∨ before b a := by
  rw [before_iff, before_iff]
  rcases Nat.lt_trichotomy (Text.utf8Size a.stem) (Text.utf8Size b.stem) with h | h | h
  · exact .inr (.inl h)
  · by_cases hlt : b.stem < a.stem
    · exact .inr (.inr ⟨h.symm, List.lt_asymm hlt⟩)
    · exact .inl (.inr ⟨h, hlt⟩)
  · exact .inl (.inl h)

theorem utf8Size_le_of_before (h : before a b) :
    Text.utf8Size b.stem ≤ Text.utf8Size a.stem := by
  rcases before_iff.1 h with h | ⟨h, -⟩
  · exact Nat.le_of_lt h
  · exact Nat.le_of_eq h.symm

end Family

/-! ## What a registry finds -/

namespace Registry

variable {families : List Family} {family a b : Family} {key suffix : Text}

/-- Of some families, one has the longest stem that begins a key. -/
structure HasLongestStem (families : List Family) (key : Text) (family : Family) : Prop where
  listed : family ∈ families
  stem : family.stem <+: key
  longest : ∀ other ∈ families, other.stem <+: key → other.stem.length ≤ family.stem.length

/-- Stems of one length that begin one key are one stem. -/
theorem HasLongestStem.unique (hstems : (families.map Family.stem).Nodup)
    (ha : HasLongestStem families key a) (hb : HasLongestStem families key b) : a = b := by
  have hab : a.stem <+: b.stem :=
    List.prefix_of_prefix_length_le ha.stem hb.stem (hb.longest a ha.listed ha.stem)
  have hstem : a.stem = b.stem := hab.eq_of_length_le (ha.longest b hb.listed hb.stem)
  exact List.inj_on_of_nodup_map hstems ha.listed hb.listed hstem

theorem HasLongestStem.perm {families' : List Family} (hperm : families.Perm families')
    (h : HasLongestStem families key family) : HasLongestStem families' key family :=
  ⟨hperm.mem_iff.1 h.listed, h.stem, fun other hother => h.longest other (hperm.mem_iff.2 hother)⟩

theorem mem_ofFamilies : family ∈ (ofFamilies families).families ↔ family ∈ families :=
  List.mem_mergeSort

theorem pairwise_ofFamilies (families : List Family) :
    (ofFamilies families).families.Pairwise fun a b => Family.before a b := by
  have htotal : ∀ a b : Family, (Family.before a b || Family.before b a) = true := fun a b =>
    (Bool.or_eq_true _ _).symm ▸ Family.before_total a b
  exact @List.pairwise_mergeSort _ Family.before (fun _ _ _ => Family.before_trans) htotal families

/-- Nothing is found exactly if no stem begins the key. -/
theorem find?_ofFamilies_eq_none_iff : (ofFamilies families).find? key = none ↔
    ∀ family ∈ families, ¬ family.stem <+: key := by
  rw [find?, List.findSome?_eq_none_iff]
  simp only [mem_ofFamilies, Option.map_eq_none_iff, Family.suffix?_eq_none_iff]

/-- What is found has the longest stem: a family with a longer one would have been tried before. -/
theorem hasLongestStem_of_find? (h : (ofFamilies families).find? key = some (family, suffix)) :
    HasLongestStem families key family ∧ family.suffix? key = some suffix := by
  obtain ⟨front, found, rest, hsplit, hfound, hfront⟩ := List.findSome?_eq_some_iff.1 h
  obtain ⟨_, hsuffix, heq⟩ := Option.map_eq_some_iff.1 hfound
  cases heq
  have hmem : ∀ other, other ∈ families ↔ other ∈ front ++ family :: rest := fun other => by
    rw [← hsplit, mem_ofFamilies]
  have hordered := pairwise_ofFamilies families
  rw [hsplit] at hordered
  obtain ⟨hbehind, -⟩ := List.pairwise_cons.1 (List.pairwise_append.1 hordered).2.1
  have hstem : family.stem <+: key := Family.stem_prefix_of_suffix? hsuffix
  refine ⟨⟨(hmem family).2 (by simp), hstem, fun other hother htakes => ?_⟩, hsuffix⟩
  rcases List.mem_append.1 ((hmem other).1 hother) with hother | hother
  · -- the families in front do not take the key
    have hnone : other.suffix? key = none := by simpa using hfront other hother
    exact absurd htakes (Family.suffix?_eq_none_iff.1 hnone)
  · rcases List.mem_cons.1 hother with rfl | hother
    · exact Nat.le_refl _
    · exact Text.length_le_of_utf8Size_le htakes hstem
        (Family.utf8Size_le_of_before (hbehind other hother))

/-- With different stems, a registry finds the family with the longest stem that begins the key. -/
theorem find?_ofFamilies_eq_some_iff (hstems : (families.map Family.stem).Nodup) :
    (ofFamilies families).find? key = some (family, suffix) ↔
      HasLongestStem families key family ∧ family.suffix? key = some suffix := by
  constructor
  · exact hasLongestStem_of_find?
  · rintro ⟨hlongest, hsuffix⟩
    rcases hfind : (ofFamilies families).find? key with _ | ⟨found, suffix'⟩
    · exact absurd hlongest.stem (find?_ofFamilies_eq_none_iff.1 hfind family hlongest.listed)
    · obtain ⟨hlongest', hsuffix'⟩ := hasLongestStem_of_find? hfind
      obtain rfl : found = family := hlongest'.unique hstems hlongest
      obtain rfl : suffix' = suffix := Option.some.inj (hsuffix'.symm.trans hsuffix)
      rfl

/-- With different stems, a registry finds the same whatever the order in which it got its families. -/
theorem find?_ofFamilies_perm {families' : List Family}
    (hstems : (families.map Family.stem).Nodup) (hperm : families'.Perm families) (key : Text) :
    (ofFamilies families').find? key = (ofFamilies families).find? key := by
  have hstems' : (families'.map Family.stem).Nodup := (hperm.map Family.stem).nodup_iff.2 hstems
  refine Option.ext fun found => ?_
  obtain ⟨family, suffix⟩ := found
  rw [find?_ofFamilies_eq_some_iff hstems', find?_ofFamilies_eq_some_iff hstems]
  exact and_congr_left fun _ => ⟨.perm hperm, .perm hperm.symm⟩

end Registry

/-! ## The registry of the catalog -/

namespace Catalog

theorem nodup_stems (scope : SecretScope) : ((families scope).map Family.stem).Nodup := by
  have hstems : (fieldStems.map (fun pair => pair.1.toList) ++ [secretStem]).Nodup := by
    decide +kernel
  simpa [families, Function.comp_def] using hstems

/-- The registry of the catalog finds nothing exactly if no stem begins a key.  Otherwise it finds the
one family whose stem is the longest that does, and it would find the same had the families been given
to it in any other order. -/
theorem find?_registry (scope : SecretScope) (key : Text) :
    ((registry scope).find? key = none ↔ ∀ family ∈ families scope, ¬ family.stem <+: key) ∧
    (∀ family suffix, (registry scope).find? key = some (family, suffix) ↔
      Registry.HasLongestStem (families scope) key family ∧ family.suffix? key = some suffix) ∧
    ((∃ family ∈ families scope, family.stem <+: key) →
      ∃! family, Registry.HasLongestStem (families scope) key family) ∧
    ∀ order : List Family, order.Perm (families scope) →
      (Registry.ofFamilies order).find? key = (registry scope).find? key := by
  refine ⟨Registry.find?_ofFamilies_eq_none_iff,
    fun family suffix => Registry.find?_ofFamilies_eq_some_iff (nodup_stems scope), ?_,
    fun order hperm => Registry.find?_ofFamilies_perm (nodup_stems scope) hperm key⟩
  rintro ⟨family, hmem, hstem⟩
  rcases hfind : (registry scope).find? key with _ | ⟨found, suffix⟩
  · exact absurd hstem (Registry.find?_ofFamilies_eq_none_iff.1 hfind family hmem)
  · have hlongest := (Registry.hasLongestStem_of_find? hfind).1
    exact ⟨found, hlongest, fun other hother => hother.unique (nodup_stems scope) hlongest⟩

/-- A key that begins with two stems goes to the longer one, also when the families come in the
opposite order. -/
theorem find?_registry_serviceVariables :
    (Registry.ofFamilies (families .none).reverse).find? "serviceVariables.port".toList =
      some (⟨"serviceVariables".toList, .field "serviceVariables".toList⟩, "port".toList) ∧
    (∃! family, Registry.HasLongestStem (families .none) "serviceVariables.port".toList family) ∧
    "serviceVariable".toList <+: "serviceVariables.port".toList := by
  obtain ⟨-, hfound, hunique, horder⟩ := find?_registry .none "serviceVariables.port".toList
  have hmem : ⟨"serviceVariables".toList, .field "serviceVariables".toList⟩ ∈ families .none := by
    decide +kernel
  have hstem : "serviceVariables".toList <+: "serviceVariables.port".toList := by decide
  refine ⟨?_, hunique ⟨_, hmem, hstem⟩, by decide⟩
  rw [horder _ (List.reverse_perm _), hfound]
  exact ⟨⟨hmem, hstem, by decide +kernel⟩, by decide +kernel⟩

end Catalog
end ExprMigration
