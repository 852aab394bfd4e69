import ExprMigration.Text.Basic

/-!
# Legacy tokens

A legacy expression stands in a text as a token `${…}` of one of two languages.  A *generic*
token has a non-empty body of ASCII letters, digits and `_ . - " ( )`.  A *secret* token is a call
of `secrets.getValue` with a non-empty argument that holds no brace.

The languages are given twice: as predicates on whole texts (`IsGeneric`, `IsSecret`), and as
readers that recognise a token at the beginning of a text (`generic?`, `secret?`).  `tokens` lists
the tokens of a text.
-/

namespace ExprMigration
namespace Token

/-! ## The two languages -/

/-- The characters that open a token. -/
def opening : Text := ['$', '\x7b']

/-- The character that closes a token. -/
def closing : Char := '\x7d'

/-- The beginning of a secret token. -/
def secretOpening : Text := opening ++ "secrets.getValue(".toList

/-- A character that may stand in the body of a generic token. -/
def isBodyChar (c : Char) : Bool :=
  c.isAlphanum || c == '_' || c == '.' || c == '-' || c == '"' || c == '(' || c == ')'

/-- A character that may stand in the argument of a secret token: any but the two braces. -/
def isArgumentChar (c : Char) : Bool := c != '\x7b' && c != '\x7d'

/-- The language of generic tokens. -/
def IsGeneric (t : Text) : Prop :=
  ∃ body : Text, body ≠ [] ∧ (∀ c ∈ body, isBodyChar c) ∧ t = opening ++ body ++ [closing]

/-- The language of secret tokens. -/
def IsSecret (t : Text) : Prop :=
  ∃ argument : Text, argument ≠ [] ∧ (∀ c ∈ argument, isArgumentChar c) ∧
    t = secretOpening ++ argument ++ [')', closing]

/-! ## Recognising a token at the beginning of a text -/

/-- The generic token at the beginning of a text. -/
def generic? (t : Text) : Option Text :=
  match Text.afterLead? opening t with
  | none => none
  | some rest =>
    match rest.takeWhile isBodyChar, rest.dropWhile isBodyChar with
    | [], _ => none
    | _, [] => none
    | body, c :: _ => if c = closing then some (opening ++ body ++ [closing]) else none

/-- The secret token at the beginning of a text.  The argument extends to the last `)` before the
first brace, and that brace has to close the token. -/
def secret? (t : Text) : Option Text :=
  match Text.afterLead? secretOpening t with
  | none => none
  | some rest =>
    match Text.beforeTail? [')'] (rest.takeWhile isArgumentChar), rest.dropWhile isArgumentChar with
    | none, _ => none
    | some [], _ => none
    | _, [] => none
    | some argument, c :: _ =>
      if c = closing then some (secretOpening ++ argument ++ [')', closing]) else none

/-! ## The tokens of a text -/

/-- `scanFrom read? skip t` lists the tokens that `read?` recognises in `t` after its first `skip`
characters, from left to right; the search goes on behind each token. -/
def scanFrom (read? : Text → Option Text) : Nat → Text → List Text
  | _, [] => []
  | skip + 1, _ :: cs => scanFrom read? skip cs
  | 0, c :: cs =>
    match read? (c :: cs) with
    | some token => token :: scanFrom read? (token.length - 1) cs
    | none => scanFrom read? 0 cs

/-- The tokens of a text, each once: the generic ones by first occurrence, then those that are only
secret tokens by first occurrence. -/
def tokens (t : Text) : List Text :=
  (scanFrom generic? 0 t ++ scanFrom secret? 0 t).eraseDups

/-- The key inside a token.  A text without the opening or the closing is its own key. -/
def key (token : Text) : Text :=
  match Text.afterLead? opening token with
  | none => token
  | some rest => (Text.beforeTail? [closing] rest).getD token

end Token
end ExprMigration
