import ExprMigration.Text.Basic

/-!
# Paths

A path is written as a text with `/` between its parts.  What a path means is its list of
components: repeated and trailing slashes and inner `.` parts do not count, while a leading `/`, a
leading `.` and every `..` do.  Paths are ordered by their components, so that everything below a
directory comes before the directory's later siblings.
-/

namespace ExprMigration

/-- A component of a path. -/
inductive Component where
  /-- The root of the tree. -/
  | root
  /-- A leading `.`. -/
  | here
  /-- The parent directory, written `..`. -/
  | up
  | name (name : Text)
deriving Repr, DecidableEq

namespace Component

/-- The kinds of components in their order. -/
def rank : Component → Nat
  | .root => 0
  | .here => 1
  | .up => 2
  | .name _ => 3

/-- The order of components: by kind, and names by their characters. -/
def lt : Component → Component → Bool
  | .name a, .name b => decide (a < b)
  | a, b => decide (a.rank < b.rank)

/-- The component that a part of a path stands for; an empty part and an inner `.` stand for
none. -/
def ofPart? (part : Text) : Option Component :=
  if part = [] ∨ part = ['.'] then none
  else if part = ['.', '.'] then some .up
  else some (.name part)

end Component

namespace Path

/-! ## Components -/

/-- The components of a path. -/
def components (path : Text) : List Component :=
  match path.splitOn '/' with
  | [] => []
  | first :: rest =>
    let inner := rest.filterMap Component.ofPart?
    if first = [] then (if rest = [] then [] else .root :: inner)
    else if first = ['.'] then .here :: inner
    else ((Component.ofPart? first).toList ++ inner)

/-- The order of lists of components. -/
def componentsLe : List Component → List Component → Bool
  | [], _ => true
  | _ :: _, [] => false
  | a :: as, b :: bs => a.lt b || (a == b && componentsLe as bs)

/-- Whether a path comes no later than another. -/
def le (a b : Text) : Bool := componentsLe (components a) (components b)

/-- Whether two texts write the same path. -/
def same (a b : Text) : Bool := components a == components b

/-- The name at the end of a path, or the whole path if there is none. -/
def fileName (path : Text) : Text :=
  match (components path).getLast? with
  | some (.name name) => name
  | _ => path

/-! ## Joining and parting -/

/-- Whether a path begins at the root. -/
def isAbsolute (path : Text) : Bool := path.head? == some '/'

/-- A path taken relative to a base. -/
def join (base path : Text) : Text :=
  if isAbsolute path then path
  else if base = [] ∨ base.getLast? = some '/' then base ++ path
  else base ++ '/' :: path

/-- The parts of a path behind the given components. -/
def partsAfter? : List Component → List Text → Option (List Text)
  | [], parts => some parts
  | _ :: _, [] => none
  | component :: components, part :: parts =>
    match Component.ofPart? part with
    | none => partsAfter? (component :: components) parts
    | some c => if c = component then partsAfter? components parts else none

/-- Parts without those at the beginning that stand for no component. -/
def dropIdle (parts : List Text) : List Text :=
  parts.dropWhile fun part => (Component.ofPart? part).isNone

/-- Parts without those at the end that stand for no component. -/
def dropIdleEnd (parts : List Text) : List Text := (dropIdle parts.reverse).reverse

/-- The path behind a base; `none` if the components of the base do not begin it. -/
def below? (base path : Text) : Option Text :=
  let joined := Text.join ['/']
  match components base, path.splitOn '/' with
  | [], [] => some []
  | [], first :: rest => some (joined (first :: dropIdleEnd rest) ++ if first = [] ∧ rest ≠ [] ∧
      dropIdleEnd rest = [] then ['/'] else [])
  | _ :: _, [] => none
  | component :: rest, first :: parts =>
    let remaining :=
      if first = [] ∧ parts ≠ [] then
        (if component = .root then partsAfter? rest parts else none)
      else if first = ['.'] then (if component = .here then partsAfter? rest parts else none)
      else partsAfter? (component :: rest) (first :: parts)
    remaining.map fun parts => joined (dropIdleEnd (dropIdle parts))

/-- How a path is shown to the user: relative to the root directory if it lies below it, with
forward slashes. -/
def display (root path : Text) : Text :=
  ((below? root path).getD path).map fun c => if c = '\\' then '/' else c

end Path
end ExprMigration
