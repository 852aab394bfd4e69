import ExprMigration.Yaml.Document
import ExprMigration.Yaml.Plain

/-!
# Flat mappings

A flat mapping is a document whose root is a mapping from texts to texts.  Every scalar counts as
the text that is written, whatever it means; an alias counts as the scalar that it names.  A missing
document and an empty plain scalar are the empty mapping.
-/

namespace ExprMigration
namespace Yaml

/-- Why a text is no flat mapping. -/
inductive FlatMapFault where
  /-- The text is not well formed, or it does not hold exactly one document. -/
  | malformed
  /-- Something is there where something else is needed; `place` names the entry by its key. -/
  | wrongType (place : Option Text) (found : Text) (needed : String)
deriving Repr, DecidableEq

/-- The words for a fault. -/
def FlatMapFault.message : FlatMapFault → Text
  | .malformed => "not a YAML text of a flat mapping".toList
  | .wrongType place found needed =>
    place.elim [] (· ++ ": ".toList) ++ "invalid type: ".toList ++ found ++
      ", expected ".toList ++ needed.toList

/-! ## Anchors -/

/-- The anchors of a document.  An anchor has as its number the count of names before it, so that a
name that is used again takes the number that the next new name takes, too. -/
structure Anchors where
  numbers : List (Text × Nat)
  /-- The nodes with their numbers, the last node first. -/
  nodes : List (Nat × Node)

namespace Anchors

/-- No anchors. -/
def empty : Anchors := ⟨[], []⟩

/-- The number of a name. -/
def number? (anchors : Anchors) (name : Text) : Option Nat :=
  (anchors.numbers.find? (·.1 = name)).map Prod.snd

/-- The node with a number. -/
def node? (anchors : Anchors) (number : Nat) : Option Node :=
  (anchors.nodes.find? (·.1 = number)).map Prod.snd

/-- The anchors with the anchor of one more node. -/
def add (anchors : Anchors) (node : Node) : Anchors :=
  match node.anchor with
  | none => anchors
  | some name =>
    let number := anchors.numbers.length
    ⟨(name, number) :: anchors.numbers.filter (·.1 ≠ name), (number, node) :: anchors.nodes⟩

end Anchors

/-- A node, or the number of the anchor that it names. -/
inductive Linked where
  | written (node : Node)
  | named (number : Nat)

/-- Nodes whose aliases are linked. -/
structure Linking where
  nodes : List Linked
  anchors : Anchors
  /-- Whether every alias has an anchor before it; else the nodes end before the first that has
  none. -/
  whole : Bool

/-- Links the aliases of nodes, given the anchors before them. -/
def link (anchors : Anchors) : List Node → Linking
  | [] => ⟨[], anchors, true⟩
  | node :: rest =>
    match node.kind with
    | .alias name =>
      match anchors.number? name with
      | none => ⟨[], anchors, false⟩
      | some number =>
        let linking := link anchors rest
        { linking with nodes := .named number :: linking.nodes }
    | _ =>
      let linking := link (anchors.add node) rest
      { linking with nodes := .written node :: linking.nodes }

/-! ## Entries -/

/-- The text of a node that has to be a text. -/
def textOf (place : Option Text) (node : Node) : Except FlatMapFault Text :=
  match node.kind with
  | .scalar text _ => .ok text
  | .sequence => .error (.wrongType place "sequence".toList "a string")
  | .mapping _ => .error (.wrongType place "map".toList "a string")
  | .alias _ => .error .malformed

/-- The text of a node or of the node that it names. -/
def Linked.text (anchors : Anchors) (place : Option Text) : Linked → Except FlatMapFault Text
  | .written node => textOf place node
  | .named number =>
    match anchors.node? number with
    | some node => textOf place node
    | none => .error .malformed

/-- How a message calls the place of a value, by its key.  The key `.` is the name of the root, which
needs no mention. -/
def Linked.place? : Linked → Option Text
  | .written { kind := .scalar text _, .. } => if text = ['.'] then none else some text
  | _ => some ['?']

/-- The entries that keys and values make by turns. -/
def entriesOf (anchors : Anchors) : List Linked → Except FlatMapFault (List (Text × Text))
  | [] => .ok []
  | [key] => (key.text anchors none).bind fun _ => .error .malformed
  | key :: value :: rest => do
    let name ← key.text anchors none
    let text ← value.text anchors key.place?
    return (name, text) :: (← entriesOf anchors rest)

/-! ## Roots -/

/-- What a tagged scalar means, if it can have the tag. -/
def taggedMeaning (tag text : Text) : Option Meaning :=
  let known (name : String) : Bool := tag = "tag:yaml.org,2002:".toList ++ name.toList
  if known "bool" then (Meaning.bool? text).map .bool
  else if known "int" then (Meaning.integer? text).map .integer
  else if known "float" then (Meaning.float? text).map .float
  else if known "null" then if Meaning.isNothing text then some .nothing else none
  else if tag.head? = some '!' ∧ text = [] then some .nothing
  else some .text

/-- The fault of a scalar at the root. -/
def rootFault (tag : Option Text) (text : Text) (plain : Bool) : FlatMapFault :=
  let meaning := match tag with
    | some tag => taggedMeaning tag text
    | none => some (if plain then .ofText text else .text)
  match meaning with
  | some meaning => .wrongType none (meaning.called text) "a map"
  | none => .malformed

/-- The entries of a document. -/
def entries (reading : Reading) : Except FlatMapFault (List (Text × Text)) :=
  let linking := link .empty reading.nodes
  let found : Except FlatMapFault (List (Text × Text)) := match linking.nodes with
    | [] => .ok []
    | .written root :: more =>
      match root.kind with
      | .scalar text plain =>
        if text = [] ∧ plain then .ok [] else .error (rootFault root.tag text plain)
      | .sequence => .error (.wrongType none "sequence".toList "a map")
      | .mapping _ => entriesOf linking.anchors more
      | .alias _ => .error .malformed
    | .named _ :: _ => .error .malformed
  match found, reading.rest with
  | .error fault, _ => .error fault
  | .ok entries, some rest => if linking.whole ∧ endsStream rest then .ok entries else .error .malformed
  | .ok _, none => .error .malformed

/-- The entries of the flat mapping that a text writes, in their order. -/
def readFlatMap (t : Text) : Except FlatMapFault (List (Text × Text)) :=
  entries (Reading.ofTokens (tokens t))

end Yaml
end ExprMigration
