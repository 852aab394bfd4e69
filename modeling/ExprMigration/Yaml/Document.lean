import ExprMigration.Yaml.Tokenizer

/-!
# Flat documents

A document as far as a flat mapping needs it: its root and, if the root is a mapping, the keys and
values of its entries.  A sequence or a mapping within an entry has no place in a flat mapping, so
the reading of the document ends there.
-/

namespace ExprMigration
namespace Yaml

/-! ## Nodes -/

/-- What a node is. -/
inductive NodeKind where
  /-- A text; `plain` says that it stands without quotes and outside of blocks. -/
  | scalar (text : Text) (plain : Bool)
  /-- The node with an anchor. -/
  | alias (name : Text)
  | sequence
  /-- A mapping; `flow` says that it stands within brackets. -/
  | mapping (flow : Bool)
deriving Repr, DecidableEq

/-- A node with its properties; of a sequence or a mapping only the beginning. -/
structure Node where
  anchor : Option Text
  tag : Option Text
  kind : NodeKind
deriving Repr, DecidableEq

namespace Node

/-- The node where nothing is written. -/
def empty : Node := ⟨none, none, .scalar [] true⟩

/-- Whether the node is the beginning of a sequence or a mapping. -/
def isCollection (node : Node) : Bool :=
  match node.kind with
  | .sequence | .mapping _ => true
  | .scalar _ _ | .alias _ => false

end Node

/-- What the handles of tags stand for. -/
abbrev TagHandles := List (Text × Text)

/-- The handles that every document knows. -/
def commonHandles : TagHandles :=
  [(['!'], ['!']), (['!', '!'], "tag:yaml.org,2002:".toList)]

/-- The tag that a handle and a suffix stand for. -/
def TagHandles.tag? (handles : TagHandles) (handle suffix : Text) : Option Text :=
  if handle = [] then some suffix
  else (handles.find? (·.1 = handle)).map fun (_, stands) => stands ++ suffix

/-- The anchor and the tag in front of a node, in either order, and the tokens behind them. -/
def properties? (handles : TagHandles) :
    List Token → Option (Option Text × Option Text × List Token)
  | .anchor name :: .tag handle suffix :: rest
  | .tag handle suffix :: .anchor name :: rest =>
    (handles.tag? handle suffix).map fun tag => (some name, some tag, rest)
  | .anchor name :: rest => some (some name, none, rest)
  | .tag handle suffix :: rest =>
    (handles.tag? handle suffix).map fun tag => (none, some tag, rest)
  | rest => some (none, none, rest)

/-- What a node is by its first tokens, and the tokens behind a scalar or an alias.  `block` says that
it stands outside of brackets, `dashes` that a sequence may begin there without being indented. -/
def kind? (block dashes : Bool) : List Token → Option (NodeKind × List Token)
  | .scalar text plain :: rest => some (.scalar text plain, rest)
  | .flowSequenceStart :: rest => some (.sequence, rest)
  | .flowMappingStart :: rest => some (.mapping true, rest)
  | .blockSequenceStart :: rest => if block then some (.sequence, rest) else none
  | .blockMappingStart :: rest => if block then some (.mapping false, rest) else none
  | .blockEntry :: rest => if dashes then some (.sequence, rest) else none
  | _ => none

/-- The node at the beginning of some tokens.  After an anchor or a tag it may be empty; the tag `!`
says nothing about a scalar that is written. -/
def node? (handles : TagHandles) (block dashes : Bool) (tokens : List Token) :
    Option (Node × List Token) :=
  match tokens with
  | .alias name :: rest => some (⟨none, none, .alias name⟩, rest)
  | _ =>
    match properties? handles tokens with
    | none => none
    | some (anchor, tag, rest) =>
      match kind? block dashes rest with
      | some (.scalar text plain, rest) =>
        some (⟨anchor, if tag = some ['!'] then none else tag, .scalar text plain⟩, rest)
      | some (kind, rest) => some (⟨anchor, tag, kind⟩, rest)
      | none =>
        if (anchor.isSome ∨ tag.isSome) ∧ rest ≠ [] then
          some (⟨anchor, tag, .scalar [] true⟩, rest)
        else none

/-! ## Entries -/

/-- Nodes that were read, and the tokens behind them.  There are no such tokens if a fault or the
beginning of a collection ended the reading. -/
structure Reading where
  nodes : List Node
  rest : Option (List Token)
deriving Repr

namespace Reading

/-- The reading of a fault. -/
def fault : Reading := ⟨[], none⟩

/-- A node in front of what is read from the tokens behind it. -/
def cons (node : Node) (rest : List Token) (more : List Token → Reading) : Reading :=
  if node.isCollection then ⟨[node], none⟩
  else
    let reading := more rest
    ⟨node :: reading.nodes, reading.rest⟩

end Reading

/-- Whether an entry of a block is empty, by the token at its place. -/
def endsBlockNode : Token → Bool
  | .key | .value | .blockEnd => true
  | _ => false

/-- Reads a node of a block entry, and goes on behind it. -/
def blockNode (handles : TagHandles) (more : List Token → Reading) : List Token → Reading
  | [] => .fault
  | token :: rest =>
    if endsBlockNode token then .cons .empty (token :: rest) more
    else
      match node? handles true true (token :: rest) with
      | none => .fault
      | some (node, rest) => .cons node rest more

/-- Reads the entries of a block mapping up to its end: the nodes are by turns keys and values. -/
def blockEntries (handles : TagHandles) : Nat → List Token → Reading
  | 0, _ => .fault
  | fuel + 1, tokens =>
    let value : List Token → Reading
      | .value :: rest => blockNode handles (blockEntries handles fuel) rest
      | [] => .fault
      | rest => .cons .empty rest (blockEntries handles fuel)
    match tokens with
    | .key :: rest => blockNode handles value rest
    | .blockEnd :: rest => ⟨[], some rest⟩
    | _ => .fault

/-- Whether an entry within brackets is empty, by the token at its place. -/
def endsFlowNode : Token → Bool
  | .flowEntry | .flowMappingEnd => true
  | _ => false

/-- Reads a node of an entry within brackets, and goes on behind it.  At `stops` the node is
empty. -/
def flowNode (handles : TagHandles) (stops : Token → Bool) (more : List Token → Reading) :
    List Token → Reading
  | [] => .fault
  | token :: rest =>
    if stops token then .cons .empty (token :: rest) more
    else
      match node? handles false false (token :: rest) with
      | none => .fault
      | some (node, rest) => .cons node rest more

/-- Reads the entries of a mapping within brackets up to its end.  `first` says that no entry was
read before. -/
def flowEntries (handles : TagHandles) : Nat → Bool → List Token → Reading
  | 0, _, _ => .fault
  | fuel + 1, first, tokens =>
    let more := flowEntries handles fuel false
    let value : List Token → Reading
      | .value :: rest => flowNode handles endsFlowNode more rest
      | [] => .fault
      | rest => .cons .empty rest more
    let entry : List Token → Reading
      | .key :: rest =>
        flowNode handles (fun token => endsFlowNode token || token == .value) value rest
      | .flowMappingEnd :: rest => ⟨[], some rest⟩
      | rest =>
        match node? handles false false rest with
        | none => .fault
        | some (node, rest) => .cons node rest fun
          | [] => .fault
          | rest => .cons .empty rest more
    match tokens with
    | .flowMappingEnd :: rest => ⟨[], some rest⟩
    | .flowEntry :: rest => if first then .fault else entry rest
    | rest => if first then entry rest else .fault

/-! ## Documents -/

/-- The directives in front of a document: whether a version was named, and the handles. -/
structure Directives where
  versioned : Bool
  handles : TagHandles
deriving Repr

/-- Reads the directives in front of a document. -/
def directives? (found : Directives) : List Token → Option (Directives × List Token)
  | .version major minor :: rest =>
    if found.versioned ∨ major ≠ 1 ∨ minor ≠ 1 ∧ minor ≠ 2 then none
    else directives? { found with versioned := true } rest
  | .tagHandle handle stands :: rest =>
    if found.handles.any (·.1 = handle) then none
    else directives? { found with handles := found.handles ++ [(handle, stands)] } rest
  | rest => some (found, rest)

/-- The nodes of a document whose root is at the beginning of some tokens: the root and, if it is a
mapping, the nodes of its entries. -/
def rootReading (handles : TagHandles) (tokens : List Token) : Reading :=
  match node? handles true false tokens with
  | none => .fault
  | some (node, rest) =>
    match node.kind with
    | .sequence => ⟨[node], none⟩
    | .mapping flow =>
      let reading :=
        if flow then flowEntries handles (rest.length + 1) true rest
        else blockEntries handles (rest.length + 1) rest
      ⟨node :: reading.nodes, reading.rest⟩
    | _ => ⟨[node], some rest⟩

/-- Whether a token leaves a document without a root. -/
def endsDocument : Token → Bool
  | .version _ _ | .tagHandle _ _ | .documentStart | .documentEnd | .streamEnd => true
  | _ => false

/-- The nodes of the first document of some tokens; no node if there is no document. -/
def Reading.ofTokens (tokens : List Token) : Reading :=
  match tokens with
  | [] => .fault
  | .streamEnd :: _ => ⟨[], some tokens⟩
  | .version _ _ :: _ | .tagHandle _ _ :: _ | .documentStart :: _ =>
    match directives? ⟨false, []⟩ tokens with
    | some (found, .documentStart :: token :: rest) =>
      if endsDocument token then ⟨[.empty], some (token :: rest)⟩
      else rootReading (found.handles ++ commonHandles) (token :: rest)
    | _ => .fault
  | _ => rootReading commonHandles tokens

/-- Whether nothing but the end of the text follows a document. -/
def endsStream (rest : List Token) : Bool :=
  rest.dropWhile (· == .documentEnd) == [.streamEnd]

end Yaml
end ExprMigration
