import ExprMigration.Token
import Mathlib.Data.List.TakeWhile

/-!
# The languages of tokens

What the two languages have in common: a token is *enclosed*, that is, it has a brace at its opening
and at its closing and none between them.  Two consequences carry the whole theory of substitution.
An enclosed text is the only one at its place (`IsEnclosed.append_inj`), and no opening begins inside
it (`IsEnclosed.not_opening_inside`).  The readers `generic?`, `secret?` and `first?` recognise
exactly their languages.
-/

namespace ExprMigration
namespace Token

/-! ## Enclosed texts -/

/-- The language of all tokens. -/
def IsToken (t : Text) : Prop := IsGeneric t ∨ IsSecret t

/-- A text with no brace but those of its opening and its closing. -/
def IsEnclosed (t : Text) : Prop :=
  ∃ inner : Text, (∀ c ∈ inner, isArgumentChar c) ∧ t = opening ++ inner ++ [closing]

theorem isArgumentChar_of_isBodyChar {c : Char} (h : isBodyChar c) : isArgumentChar c := by
  simp only [isArgumentChar, bne_iff_ne, Bool.and_eq_true]
  constructor <;> rintro rfl <;> exact absurd h (by decide)

theorem isArgumentChar_closing : isArgumentChar closing = false := rfl

theorem isBodyChar_closing : isBodyChar closing = false := rfl

theorem takeWhile_enclosed {inner r : Text} (h : ∀ c ∈ inner, isArgumentChar c) :
    (inner ++ closing :: r).takeWhile isArgumentChar = inner := by
  simp [List.takeWhile_append_of_pos h, isArgumentChar_closing]

theorem dropWhile_enclosed {inner r : Text} (h : ∀ c ∈ inner, isArgumentChar c) :
    (inner ++ closing :: r).dropWhile isArgumentChar = closing :: r := by
  simp [List.dropWhile_append_of_pos h, isArgumentChar_closing]

theorem IsGeneric.isEnclosed {t : Text} (h : IsGeneric t) : IsEnclosed t := by
  obtain ⟨body, _, hbody, rfl⟩ := h
  exact ⟨body, fun c hc => isArgumentChar_of_isBodyChar (hbody c hc), rfl⟩

theorem IsSecret.isEnclosed {t : Text} (h : IsSecret t) : IsEnclosed t := by
  obtain ⟨argument, _, hargument, rfl⟩ := h
  refine ⟨"secrets.getValue(".toList ++ argument ++ [')'], ?_, by simp [secretOpening]⟩
  intro c hc
  simp only [List.mem_append, or_assoc] at hc
  rcases hc with hc | hc | hc
  · exact List.all_eq_true.1 (by decide : "secrets.getValue(".toList.all isArgumentChar) c hc
  · exact hargument c hc
  · rw [List.mem_singleton.1 hc]
    rfl

theorem IsToken.isEnclosed {t : Text} (h : IsToken t) : IsEnclosed t :=
  h.elim IsGeneric.isEnclosed IsSecret.isEnclosed

theorem IsEnclosed.ne_nil {t : Text} (h : IsEnclosed t) : t ≠ [] := by
  obtain ⟨inner, _, rfl⟩ := h
  simp [opening]

theorem IsEnclosed.opening_prefix {t : Text} (h : IsEnclosed t) : opening <+: t := by
  obtain ⟨inner, _, rfl⟩ := h
  exact ⟨inner ++ [closing], by simp⟩

/-- Of two enclosed texts at one place each ends at the first closing, so they are the same. -/
theorem IsEnclosed.append_inj {t u r s : Text} (ht : IsEnclosed t) (hu : IsEnclosed u)
    (h : t ++ r = u ++ s) : t = u ∧ r = s := by
  obtain ⟨m, hm, rfl⟩ := ht
  obtain ⟨n, hn, rfl⟩ := hu
  have hmn : m ++ closing :: r = n ++ closing :: s := by simpa [opening] using h
  have hinner : m = n := by
    simpa [takeWhile_enclosed hm, takeWhile_enclosed hn]
      using congrArg (List.takeWhile isArgumentChar) hmn
  subst hinner
  exact ⟨rfl, by simpa using hmn⟩

/-- An enclosed text at the beginning of another one is that text. -/
theorem IsEnclosed.eq_of_prefix {t u s : Text} (ht : IsEnclosed t) (hu : IsEnclosed u)
    (h : t <+: u ++ s) : t = u := by
  obtain ⟨r, hr⟩ := h
  exact (ht.append_inj hu hr).1

/-- Behind the opening of an enclosed text there is no other opening up to its end, not even one that
reaches beyond it. -/
theorem IsEnclosed.not_opening_inside {t a b r : Text} (ht : IsEnclosed t) (hab : t = a ++ b)
    (ha : a ≠ []) (hb : b ≠ []) : ¬ opening <+: b ++ r := by
  -- an opening in `b ++ r` shows its brace inside `t`, or its dollar in place of the closing
  have inner_free : ∀ m : Text, (∀ c ∈ m, isArgumentChar c) → ¬ opening <+: m ++ closing :: r := by
    intro m hm hp
    match m with
    | [] => exact absurd hp (by simp [opening, closing])
    | [c] => exact absurd hp (by simp [opening, closing])
    | c :: d :: m =>
      have hd : d = '\x7b' := by
        simp only [opening, List.cons_append, List.cons_prefix_cons] at hp
        exact hp.2.1.symm
      exact absurd (hm d (by simp)) (by subst hd; decide)
  obtain ⟨m, hm, rfl⟩ := ht
  match a, ha with
  | [d], _ =>
    obtain rfl : b = '\x7b' :: m ++ [closing] := by
      simp only [opening, List.cons_append, List.nil_append, List.cons.injEq] at hab
      exact hab.2.symm
    simp [opening]
  | d :: e :: a, _ =>
    have hmb : m ++ [closing] = a ++ b := by
      simp only [opening, List.cons_append, List.nil_append, List.cons.injEq] at hab
      exact hab.2.2
    rcases List.append_eq_append_iff.1 hmb with ⟨n, rfl, hn⟩ | ⟨n, rfl, rfl⟩
    · -- `b` is the closing alone
      have : n = [] := by
        rcases n with _ | ⟨x, n⟩
        · rfl
        · simp at hn; simp [hn.2] at hb
      subst this
      obtain rfl : b = [closing] := by simpa using hn.symm
      simpa using inner_free [] (by simp)
    · simpa using inner_free n fun c hc => hm c (by simp [hc])

/-- No enclosed text begins inside another one. -/
theorem IsEnclosed.not_prefix_inside {t u a b r : Text} (ht : IsEnclosed t) (hu : IsEnclosed u)
    (hab : t = a ++ b) (ha : a ≠ []) (hb : b ≠ []) : ¬ u <+: b ++ r :=
  fun h => ht.not_opening_inside hab ha hb (hu.opening_prefix.trans h)

/-- Neither a token nor one of its ends begins with another token. -/
theorem IsToken.not_prefix_of_ne {u w b c r : Text} (hu : IsToken u) (hw : IsToken w) (hne : w ≠ u)
    (hbc : w = b ++ c) (hc : c ≠ []) : ¬ u <+: c ++ r := by
  intro hp
  by_cases hb : b = []
  · obtain rfl : w = c := by simpa [hb] using hbc
    exact hne (hu.isEnclosed.eq_of_prefix hw.isEnclosed hp).symm
  · exact hw.isEnclosed.not_prefix_inside hu.isEnclosed hbc hb hc hp

/-! ## Recognising -/

theorem takeWhile_body {body r : Text} (h : ∀ c ∈ body, isBodyChar c) :
    (body ++ closing :: r).takeWhile isBodyChar = body := by
  simp [List.takeWhile_append_of_pos h, isBodyChar_closing]

theorem dropWhile_body {body r : Text} (h : ∀ c ∈ body, isBodyChar c) :
    (body ++ closing :: r).dropWhile isBodyChar = closing :: r := by
  simp [List.dropWhile_append_of_pos h, isBodyChar_closing]

/-- `generic?` finds the generic token with which a text begins, if there is one. -/
theorem generic?_eq_some_iff {t u : Text} : generic? t = some u ↔ IsGeneric u ∧ u <+: t := by
  constructor
  · intro h
    rcases hrest : Text.afterLead? opening t with _ | rest
    · simp [generic?, hrest] at h
    have hsplit : rest.takeWhile isBodyChar ++ rest.dropWhile isBodyChar = rest :=
      List.takeWhile_append_dropWhile
    rcases hbody : rest.takeWhile isBodyChar with _ | ⟨b, body⟩
    · simp [generic?, hrest, hbody] at h
    rcases hr : rest.dropWhile isBodyChar with _ | ⟨c, r⟩
    · simp [generic?, hrest, hbody, hr] at h
    simp only [generic?, hrest, hbody, hr, Option.ite_none_right_eq_some, Option.some.injEq] at h
    obtain ⟨rfl, rfl⟩ := h
    rw [Text.afterLead?_eq_some_iff] at hrest
    rw [hbody, hr] at hsplit
    refine ⟨⟨b :: body, by simp, fun d hd => ?_, rfl⟩, r, by rw [hrest, ← hsplit]; simp⟩
    exact List.mem_takeWhile_imp (hbody ▸ hd)
  · rintro ⟨⟨body, hne, hbody, rfl⟩, r, rfl⟩
    have hlead : Text.afterLead? opening (opening ++ body ++ [closing] ++ r)
        = some (body ++ closing :: r) := by
      rw [Text.afterLead?_eq_some_iff]
      simp
    simp only [generic?, hlead, takeWhile_body hbody, dropWhile_body hbody]
    cases body with
    | nil => exact absurd rfl hne
    | cons b body => simp

/-- `secret?` finds the secret token with which a text begins, if there is one. -/
theorem secret?_eq_some_iff {t u : Text} : secret? t = some u ↔ IsSecret u ∧ u <+: t := by
  constructor
  · intro h
    rcases hrest : Text.afterLead? secretOpening t with _ | rest
    · simp [secret?, hrest] at h
    have hsplit : rest.takeWhile isArgumentChar ++ rest.dropWhile isArgumentChar = rest :=
      List.takeWhile_append_dropWhile
    rcases harg : Text.beforeTail? [')'] (rest.takeWhile isArgumentChar) with _ | (_ | ⟨a, argument⟩)
    · simp [secret?, hrest, harg] at h
    · simp [secret?, hrest, harg] at h
    rcases hr : rest.dropWhile isArgumentChar with _ | ⟨c, r⟩
    · simp [secret?, hrest, harg, hr] at h
    simp only [secret?, hrest, harg, hr, Option.ite_none_right_eq_some, Option.some.injEq] at h
    obtain ⟨rfl, rfl⟩ := h
    rw [Text.afterLead?_eq_some_iff] at hrest
    rw [Text.beforeTail?_eq_some_iff] at harg
    rw [harg, hr] at hsplit
    refine ⟨⟨a :: argument, by simp, fun d hd => ?_, rfl⟩, r, by rw [hrest, ← hsplit]; simp⟩
    exact List.mem_takeWhile_imp (harg ▸ List.mem_append_left _ hd)
  · rintro ⟨⟨argument, hne, hargument, rfl⟩, r, rfl⟩
    have hall : ∀ c ∈ argument ++ [')'], isArgumentChar c := by
      intro c hc
      rcases List.mem_append.1 hc with hc | hc
      · exact hargument c hc
      · rw [List.mem_singleton.1 hc]
        rfl
    have hlead : Text.afterLead? secretOpening (secretOpening ++ argument ++ [')', closing] ++ r)
        = some (argument ++ [')'] ++ closing :: r) := by
      rw [Text.afterLead?_eq_some_iff]
      simp
    have htail : Text.beforeTail? [')'] (argument ++ [')']) = some argument := by
      rw [Text.beforeTail?_eq_some_iff]
    simp only [secret?, hlead, takeWhile_enclosed hall, dropWhile_enclosed hall, htail]
    cases argument with
    | nil => exact absurd rfl hne
    | cons a argument => simp

instance : DecidablePred IsGeneric := fun t =>
  decidable_of_iff (generic? t = some t) (by simp [generic?_eq_some_iff])

instance : DecidablePred IsSecret := fun t =>
  decidable_of_iff (secret? t = some t) (by simp [secret?_eq_some_iff])

instance : DecidablePred IsToken := fun _ => inferInstanceAs (Decidable (_ ∨ _))

/-- The token with which a text begins. -/
def first? (t : Text) : Option Text := (generic? t).or (secret? t)

/-- `first?` finds the token with which a text begins, if there is one. -/
theorem first?_eq_some_iff {t u : Text} : first? t = some u ↔ IsToken u ∧ u <+: t := by
  rw [first?, Option.or_eq_some_iff, generic?_eq_some_iff, secret?_eq_some_iff]
  constructor
  · rintro (⟨hu, hp⟩ | ⟨_, hu, hp⟩)
    · exact ⟨.inl hu, hp⟩
    · exact ⟨.inr hu, hp⟩
  · rintro ⟨hu | hu, hp⟩
    · exact .inl ⟨hu, hp⟩
    · cases hg : generic? t with
      | none => exact .inr ⟨rfl, hu, hp⟩
      | some v =>
        -- a generic token at the same place is the same token
        obtain ⟨hv, s, rfl⟩ := generic?_eq_some_iff.1 hg
        obtain rfl := hu.isEnclosed.eq_of_prefix hv.isEnclosed hp
        exact .inl ⟨hv, hp⟩

theorem first?_eq_none_iff {t : Text} : first? t = none ↔ ∀ u, IsToken u → ¬ u <+: t := by
  rw [Option.eq_none_iff_forall_ne_some]
  simp only [ne_eq, first?_eq_some_iff, not_and]

theorem first?_append {t : Text} (h : IsToken t) (r : Text) : first? (t ++ r) = some t :=
  first?_eq_some_iff.2 ⟨h, r, rfl⟩

end Token
end ExprMigration
