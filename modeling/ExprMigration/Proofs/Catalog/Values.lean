import ExprMigration.Proofs.Catalog.Expression
import ExprMigration.Proofs.Identifier.Alphabet
import ExprMigration.Proofs.Registry.Suffix
import ExprMigration.Resolver

/-!
# The expressions of the catalog

Whatever the built-in catalog puts in the place of a token is a current expression
(`Resolver.isExpression_of_builtin`).  The catalog has an expression for every secret token
(`Resolver.isResolved_of_isSecret`).
-/

namespace ExprMigration

open Token (IsPlain IsToken IsSecret isBodyChar)

/-! ## The table -/

namespace EntryTable

/-- A key that is not there is put behind the table. -/
theorem put_of_notMem {table : EntryTable} {key : Text} (value : Text)
    (h : key ∉ table.map Prod.fst) : table.put key value = table ++ [(key, value)] := by
  induction table with
  | nil => rfl
  | cons entry rest ih =>
    obtain ⟨k, v⟩ := entry
    simp only [List.map_cons, List.mem_cons, not_or] at h
    simp [put, Ne.symm h.1, ih h.2]

/-- A table made of entries with different keys lists those entries. -/
theorem putAll_of_nodup {table : EntryTable} {entries : List (Text × Text)}
    (h : ((table ++ entries).map Prod.fst).Nodup) : table.putAll entries = table ++ entries := by
  induction entries generalizing table with
  | nil => simp [putAll]
  | cons entry rest ih =>
    obtain ⟨key, value⟩ := entry
    have hkey : key ∉ table.map Prod.fst := by
      intro hmem
      rw [List.map_append, List.nodup_append] at h
      exact h.2.2 key hmem key (by simp) rfl
    have hput : table.putAll ((key, value) :: rest) = (table.put key value).putAll rest := rfl
    rw [hput, put_of_notMem value hkey, ih (by simpa using h), List.append_assoc]
    rfl

theorem mem_of_get? {table : EntryTable} {key value : Text} (h : table.get? key = some value) :
    (key, value) ∈ table := by
  induction table with
  | nil => simp [get?] at h
  | cons entry rest ih =>
    obtain ⟨k, v⟩ := entry
    by_cases hk : k = key
    · obtain rfl : v = value := by simpa [get?, hk] using h
      simp [hk]
    · exact List.mem_cons_of_mem _ (ih (by simpa [get?, hk] using h))

end EntryTable

theorem Catalog.nodup_keys : (Catalog.entries.map Prod.fst).Nodup := by decide +kernel

/-- The built-in table is the list of the catalog's entries. -/
theorem Resolver.builtin_eq (scope : SecretScope) :
    Resolver.builtin scope = ⟨Catalog.entries, Catalog.registry scope⟩ := by
  rw [Resolver.builtin, EntryTable.putAll_of_nodup (by simpa using Catalog.nodup_keys),
    List.nil_append]

theorem Catalog.isExpression_of_mem_entries :
    ∀ entry ∈ Catalog.entries, IsExpression entry.2 := by decide +kernel

/-! ## Characters that an expression can hold -/

/-- A property of characters that fails for the dollar, the braces and the angle brackets. -/
theorem isInnerChar_of {p : Char → Bool} {c : Char} (h : p c)
    (hp : ['$', '\x7b', '\x7d', '<', '>'].all (!p ·)) : IsInnerChar c := by
  have hne : ∀ d ∈ ['$', '\x7b', '\x7d', '<', '>'], c ≠ d := by
    rintro d hd rfl
    have hnot := List.all_eq_true.1 hp c hd
    simp [h] at hnot
  simpa [IsInnerChar, Token.IsPlainChar, and_assoc] using hne

theorem isInnerChar_of_isBodyChar {c : Char} (h : isBodyChar c) : IsInnerChar c :=
  isInnerChar_of h (by decide)

/-! ## Keys -/

theorem key_enclosed (inner : Text) :
    Token.key (Token.opening ++ inner ++ [Token.closing]) = inner := by
  have hlead : Text.afterLead? Token.opening (Token.opening ++ inner ++ [Token.closing]) =
      some (inner ++ [Token.closing]) := by
    rw [Text.afterLead?_eq_some_iff, List.append_assoc]
  have htail : Text.beforeTail? [Token.closing] (inner ++ [Token.closing]) = some inner := by
    rw [Text.beforeTail?_eq_some_iff]
  simp only [Token.key, hlead, htail, Option.getD_some]

theorem key_secret (argument : Text) :
    Token.key (Token.secretOpening ++ argument ++ [')', Token.closing]) =
      Catalog.secretStem ++ argument ++ [')'] := by
  have hopening : Token.secretOpening = Token.opening ++ Catalog.secretStem := rfl
  have henclosed : Token.secretOpening ++ argument ++ [')', Token.closing] =
      Token.opening ++ (Catalog.secretStem ++ argument ++ [')']) ++ [Token.closing] := by
    simp [hopening]
  rw [henclosed, key_enclosed]

theorem secretStem_prefix_key {u : Text} (h : IsSecret u) :
    Catalog.secretStem <+: Token.key u := by
  obtain ⟨argument, -, -, rfl⟩ := h
  rw [key_secret]
  exact ⟨argument ++ [')'], by simp⟩

/-- The key of a token is made of characters that an expression can hold, or begins with the stem of
the secrets. -/
theorem key_cases {u : Text} (h : IsToken u) :
    (∀ c ∈ Token.key u, IsInnerChar c) ∨ Catalog.secretStem <+: Token.key u := by
  rcases h with ⟨body, _, hbody, rfl⟩ | h
  · rw [key_enclosed]
    exact .inl fun c hc => isInnerChar_of_isBodyChar (hbody c hc)
  · exact .inr (secretStem_prefix_key h)

/-! ## Families -/

section Families

variable {scope : SecretScope} {family : Family} {key suffix : Text}

/-- The targets of the field families, and the families that can take the key of a secret. -/
theorem mem_families (h : family ∈ Catalog.families scope) :
    (∃ target : Text, family.form = .field target ∧ (∀ c ∈ target, IsInnerChar c) ∧
      ¬ family.stem <+: Catalog.secretStem ∧ ¬ Catalog.secretStem <+: family.stem) ∨
    family = ⟨Catalog.secretStem, .secret scope⟩ := by
  have hfields : ∀ pair ∈ Catalog.fieldStems, pair.2.toList.all (IsInnerChar ·) ∧
      ¬ pair.1.toList <+: Catalog.secretStem ∧ ¬ Catalog.secretStem <+: pair.1.toList := by
    decide +kernel
  rcases List.mem_append.1 h with h | h
  · obtain ⟨pair, hpair, rfl⟩ := List.mem_map.1 h
    obtain ⟨htarget, hstem⟩ := hfields pair hpair
    exact .inl ⟨_, rfl, all_isInnerChar.1 htarget, hstem⟩
  · exact .inr (List.mem_singleton.1 h)

/-- No other stem begins a key that begins with the stem of the secrets. -/
theorem eq_secret_of_stem (hmem : family ∈ Catalog.families scope) (hfamily : family.stem <+: key)
    (hsecret : Catalog.secretStem <+: key) : family = ⟨Catalog.secretStem, .secret scope⟩ := by
  rcases mem_families hmem with ⟨_, _, _, hbehind, hbefore⟩ | hfamily
  · rcases List.prefix_or_prefix_of_prefix hfamily hsecret with hprefix | hprefix
    · exact absurd hprefix hbehind
    · exact absurd hprefix hbefore
  · assumption

theorem isInnerChar_of_mem_ofName {name : Text} {c : Char} (h : c ∈ Identifier.ofName name) :
    IsInnerChar c := by
  rcases (Identifier.isIdentifier_ofName name).mem h with h | rfl
  · exact isInnerChar_of h (by decide)
  · decide

theorem expand_field (target suffix : Text) :
    (Form.field target).expand suffix = "<+".toList ++ target ++ '.' :: suffix ++ ['>'] := rfl

theorem expand_secret (scope : SecretScope) (suffix : Text) :
    (Form.secret scope).expand suffix =
      "<+secrets.getValue(\"".toList ++ (scope.qualifier ++ Identifier.ofName suffix) ++
        "\")>".toList := rfl

theorem isInnerChar_of_mem_qualifier {c : Char} (h : c ∈ scope.qualifier) : IsInnerChar c := by
  have hall : scope.qualifier.all (IsInnerChar ·) := by cases scope <;> decide
  exact all_isInnerChar.1 hall c h

/-- A field below a target is an expression. -/
theorem isExpression_field {target : Text} (htarget : ∀ c ∈ target, IsInnerChar c)
    (hsuffix : ∀ c ∈ suffix, IsInnerChar c) : IsExpression ((Form.field target).expand suffix) := by
  refine ⟨target ++ '.' :: suffix, fun c hc => ?_, by rw [expand_field]; simp⟩
  rcases List.mem_append.1 hc with hc | hc
  · exact htarget c hc
  · rcases List.mem_cons.1 hc with rfl | hc
    · decide
    · exact hsuffix c hc

/-- The call for a secret is an expression, whatever the name of the secret. -/
theorem isExpression_secret (scope : SecretScope) (suffix : Text) :
    IsExpression ((Form.secret scope).expand suffix) := by
  have hlead : "<+secrets.getValue(\"".toList = "<+".toList ++ "secrets.getValue(\"".toList := by
    decide +kernel
  have htail : "\")>".toList = "\")".toList ++ ['>'] := by decide
  have hcall : "secrets.getValue(\"".toList.all (IsInnerChar ·) := by decide +kernel
  have hend : "\")".toList.all (IsInnerChar ·) := by decide
  refine ⟨"secrets.getValue(\"".toList ++ (scope.qualifier ++ Identifier.ofName suffix) ++
    "\")".toList, fun c hc => ?_, by rw [expand_secret, hlead, htail]; simp only [List.append_assoc]⟩
  simp only [List.mem_append, or_assoc] at hc
  rcases hc with hc | hc | hc | hc
  · exact all_isInnerChar.1 hcall c hc
  · exact isInnerChar_of_mem_qualifier hc
  · exact isInnerChar_of_mem_ofName hc
  · exact all_isInnerChar.1 hend c hc

end Families

/-! ## Tokens -/

namespace Resolver

/-- What the built-in catalog has for a token is an expression. -/
theorem isExpression_of_builtin {scope : SecretScope} {u v : Text} (hu : IsToken u)
    (h : ((builtin scope).resolveToken u).value? = some v) : IsExpression v := by
  rw [builtin_eq] at h
  simp only [resolveToken, resolve] at h
  split at h
  · next value hvalue =>
    -- an entry of the table
    obtain rfl : value = v := by simpa [Resolution.value?] using h
    exact Catalog.isExpression_of_mem_entries _ (EntryTable.mem_of_get? hvalue)
  · split at h
    · next family suffix hfind =>
      obtain rfl : family.form.expand suffix = v := by simpa [Resolution.value?] using h
      obtain ⟨hlongest, hsuffix⟩ := Registry.hasLongestStem_of_find? hfind
      rcases mem_families hlongest.listed with ⟨target, hform, htarget, -⟩ | rfl
      · rw [hform]
        refine isExpression_field htarget ?_
        rcases key_cases hu with hkey | hkey
        · exact fun c hc => hkey c ((Family.sublist_of_suffix? hsuffix).subset hc)
        · -- no field family takes the key of a secret
          rw [eq_secret_of_stem hlongest.listed hlongest.stem hkey] at hform
          cases hform
      · exact isExpression_secret scope suffix
    · simp [Resolution.value?] at h

/-- Every expression that the built-in catalog has for a token is plain and begins with `<`. -/
theorem isPlain_of_builtin {scope : SecretScope} {u v : Text} (hu : IsToken u)
    (h : ((builtin scope).resolveToken u).value? = some v) : v.head? = some '<' ∧ IsPlain v :=
  (isExpression_of_builtin hu h).isPlain

/-- The built-in catalog has an expression for every secret token. -/
theorem isResolved_of_isSecret {scope : SecretScope} {u : Text} (hu : IsSecret u) :
    ((builtin scope).resolveToken u).isResolved := by
  have hkey := secretStem_prefix_key hu
  rw [builtin_eq, resolveToken, resolve]
  split
  · rfl
  · split
    · rfl
    · next hnone =>
      have hnoStem := Registry.find?_ofFamilies_eq_none_iff.1 hnone
      exact absurd hkey (hnoStem ⟨Catalog.secretStem, .secret scope⟩ (by simp [Catalog.families]))

end Resolver
end ExprMigration
