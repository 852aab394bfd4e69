/-!
# Texts

A text is a list of characters.  This module holds the operations on texts that every other part
of the library uses: taking a fixed beginning off, cutting at the first occurrence of a mark,
splitting at a separator, and replacing every occurrence of one text by another.

All recursion is structural, so that every definition here can also be evaluated in a proof.
-/

namespace ExprMigration

/-- A text, as the list of its characters. -/
abbrev Text := List Char

namespace Text

/-- The number of bytes of a text in UTF-8. -/
def utf8Size : Text → Nat
  | [] => 0
  | c :: cs => c.utf8Size + utf8Size cs

/-! ## Beginnings and ends -/

/-- What follows `lead` in a text that begins with it. -/
def afterLead? : Text → Text → Option Text
  | [], t => some t
  | _ :: _, [] => none
  | p :: ps, c :: cs => if p = c then afterLead? ps cs else none

/-- What precedes `tail` in a text that ends with it. -/
def beforeTail? (tail t : Text) : Option Text :=
  (afterLead? tail.reverse t.reverse).map List.reverse

/-- Whether a text ends with `tail`. -/
def endsWith (tail t : Text) : Bool := (beforeTail? tail t).isSome

/-- A text is `lead` followed by what `afterLead?` returns, and there is no other way to split `lead`
off. -/
theorem afterLead?_eq_some_iff {lead t rest : Text} :
    afterLead? lead t = some rest ↔ t = lead ++ rest := by
  induction lead generalizing t with
  | nil => simp [afterLead?]
  | cons p ps ih =>
    cases t with
    | nil => simp [afterLead?]
    | cons c cs =>
      by_cases h : p = c
      · subst h; simp [afterLead?, ih]
      · simp [afterLead?, h]; intro h'; exact absurd h'.symm h

/-- A text is what `beforeTail?` returns followed by `tail`. -/
theorem beforeTail?_eq_some_iff {tail t rest : Text} :
    beforeTail? tail t = some rest ↔ t = rest ++ tail := by
  simp only [beforeTail?, Option.map_eq_some_iff, afterLead?_eq_some_iff]
  constructor
  · rintro ⟨u, hu, rfl⟩
    have := congrArg List.reverse hu
    simpa using this
  · rintro rfl
    exact ⟨rest.reverse, by simp, by simp⟩

/-! ## Cutting and splitting -/

/-- The texts before and after the first occurrence of `mark`. -/
def cut? (mark : Text) : Text → Option (Text × Text)
  | [] => (afterLead? mark []).map fun rest => ([], rest)
  | c :: cs =>
    match afterLead? mark (c :: cs) with
    | some rest => some ([], rest)
    | none => (cut? mark cs).map fun (before, rest) => (c :: before, rest)

/-- The pieces of a text between the occurrences of a separating character.  There is always at
least one piece. -/
def splitOn (sep : Char) : Text → List Text
  | [] => [[]]
  | c :: cs =>
    if c = sep then [] :: splitOn sep cs
    else match splitOn sep cs with
      | [] => [[c]]
      | piece :: rest => (c :: piece) :: rest

/-- The pieces with `sep` between each two. -/
def join (sep : Text) (pieces : List Text) : Text := sep.intercalate pieces

/-- The pieces of a text, put together again, are the text. -/
theorem join_splitOn (sep : Char) (t : Text) : join [sep] (splitOn sep t) = t := by
  induction t with
  | nil => rfl
  | cons c cs ih =>
    simp only [splitOn]
    split
    · rename_i h
      subst h
      cases hs : splitOn c cs with
      | nil => simp_all [join, splitOn]
      | cons p ps => rw [hs] at ih; simp [join] at ih ⊢; exact ih
    · split
      · rename_i h; simp [h, join] at ih ⊢; exact ih
      · rename_i p ps h
        rw [h] at ih
        cases ps <;> simp_all [join, List.intercalate_cons_cons]

/-! ## Replacing -/

/-- `replaceFrom old new skip t` is `t` without its first `skip` characters and with every
occurrence of `old` in the rest replaced by `new`, from left to right and without overlap. -/
def replaceFrom (old new : Text) : Nat → Text → Text
  | _, [] => []
  | skip + 1, _ :: cs => replaceFrom old new skip cs
  | 0, c :: cs =>
    if (afterLead? old (c :: cs)).isSome then new ++ replaceFrom old new (old.length - 1) cs
    else c :: replaceFrom old new 0 cs

/-- Replaces every occurrence of `old` by `new`, from left to right; what was inserted is not
searched again.  The empty text occurs before every character and at the end. -/
def replaceAll (old new t : Text) : Text :=
  match old with
  | [] => new ++ t.flatMap fun c => c :: new
  | _ :: _ => replaceFrom old new 0 t

end Text
end ExprMigration
