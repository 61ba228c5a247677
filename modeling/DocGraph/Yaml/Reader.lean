import DocGraph.Yaml.Node
import DocGraph.Yaml.Scalar

/-!
# Reading YAML texts

The nodes of a text become its values. Scalars are read when the collection around them
is filled, and collections are filled level by level from the outside in; so of two
faults the one on the outer level is reported, and on one level the one that comes first.

## Main definitions

* `Yaml.Built`: a value with the faults of its levels.
* `Yaml.scalarOf`: the value of a scalar.
* `Yaml.mergedPairs`: the pairs of a mapping with the mappings merged into it.
* `Yaml.build`: the value of a node.
* `Yaml.read`: the value of a text.
-/

namespace DocGraph.Yaml

/-- A value, and the first fault of every level. The value counts only if no level has a
fault. -/
structure Built where
  value : Value
  levels : List (Option Fault)

namespace Built

/-- A value that is complete at once. -/
def ofScalar (made : Except Fault Value) : Built :=
  match made with
  | .ok value => ⟨value, [none]⟩
  | .error fault => ⟨.null, [some fault]⟩

/-- The fault on the level of a value itself. -/
def outerFault (b : Built) : Option Fault := b.levels.head?.join

/-- The levels of values side by side. -/
def sideBySide : List (Option Fault) → List (Option Fault) → List (Option Fault)
  | [], ys => ys
  | xs, [] => xs
  | x :: xs, y :: ys => (x <|> y) :: sideBySide xs ys

/-- A collection around some values. The first fault of its content is given, because it
need not be one of theirs. -/
def around (value : Value) (contentFault : Option Fault) (content : List Built) : Built :=
  let deeper := content.foldl (fun levels b => sideBySide levels (b.levels.drop 1)) []
  ⟨value, none :: contentFault :: deeper⟩

/-- The first fault of all levels. -/
def firstFault? (b : Built) : Option Fault := b.levels.findSome? id

end Built

/-- The text of a scalar. A mapping stands for its main value. -/
def scalarText : Nat → Node → Except Fault String
  | _, .scalar _ text _ => .ok text
  | 0, node => .error (.problem (.wrongShape "a scalar node" node.shape) node.start)
  | fuel + 1, .mapping _ pairs start =>
    match pairs.find? fun (key, _) => key.tag = .value with
    | some (_, value) => scalarText fuel value
    | none => .error (.problem (.wrongShape "a scalar node" "mapping") start)
  | _, node => .error (.problem (.wrongShape "a scalar node" node.shape) node.start)

/-- The value of a node under its tag, if that is a tag for scalars. A date is looked for in the
node itself, and not in what a mapping stands for. -/
def scalarOf (fuel : Nat) (node : Node) : Except Fault Value := do
  let text ← scalarText fuel node
  match node.tag, node with
  | .timestamp, .mapping .. => .error (.scalar .timestampOfPairs)
  | tag, _ => scalarValue tag text node.start

/-- A key of a mapping: the key of the main value is an ordinary text. -/
def plainKey : Node → Node
  | .scalar .value text start => .scalar .str text start
  | .sequence .value items start => .sequence .str items start
  | .mapping .value pairs start => .mapping .str pairs start
  | node => node

/-- The pairs of a mapping with the mappings merged into it in front. Of several merged
mappings in one list the last comes first. -/
def mergedPairs : Nat → List (Node × Node) → Except Fault (List (Node × Node))
  | 0, pairs => .ok pairs
  | fuel + 1, pairs => do
    let own := (pairs.filter fun (key, _) => key.tag ≠ .merge).map fun (key, value) =>
      (plainKey key, value)
    let merged ← (pairs.filter fun (key, _) => key.tag = .merge).mapM fun (_, value) =>
      match value with
      | .mapping _ inner _ => mergedPairs fuel inner
      | .sequence _ items _ => do
        let lists ← items.mapM fun item =>
          match item with
          | .mapping _ inner _ => mergedPairs fuel inner
          | _ => .error (.problem (.mergeItem item.shape) item.start)
        return lists.reverse.flatten
      | .scalar .. => .error (.problem (.mergeValue value.shape) value.start)
    return merged.flatten ++ own

/-- The first fault among the pairs of a mapping: of a key, of its use as a key, or of a
value. -/
def pairsFault (pairs : List ((Mark × Built) × Built)) : Option Fault :=
  pairs.findSome? fun ((start, key), value) =>
    key.outerFault
      <|> (if key.value.isKey then none else some (.problem .unhashableKey start))
      <|> value.outerFault

/-- The content of a mapping: its entries, its first fault, and all values in it. -/
def buildEntries (build : Node → Built) (fuel : Nat) (node : Node) :
    List (Value × Value) × Option Fault × List Built :=
  match node with
  | .mapping _ pairs _ =>
    match mergedPairs fuel pairs with
    | .error fault => ([], some fault, [])
    | .ok pairs =>
      let built := pairs.map fun (key, value) => ((key.start, build key), build value)
      (Value.entriesOf (built.map fun ((_, key), value) => (key.value, value.value)),
        pairsFault built, built.flatMap fun ((_, key), value) => [key, value])
  | _ => ([], some (.problem (.wrongShape "a mapping node" node.shape) node.start), [])

/-- The content of an ordered mapping: a sequence of mappings of one pair each. -/
def buildOrdered (build : Node → Built) (node : Node) :
    List Value × Option Fault × List Built :=
  match node with
  | .sequence _ items _ =>
    let built : List (Option Fault × List (Built × Built)) := items.map fun item =>
      match item with
      | .mapping _ [(key, value)] _ =>
        let entry := (build key, build value)
        (entry.1.outerFault <|> entry.2.outerFault, [entry])
      | .mapping _ pairs start =>
        (some (.problem (.wrongShape "a single mapping item" s!"{pairs.length} items") start), [])
      | _ => (some (.problem (.wrongShape "a mapping of length 1" item.shape) item.start), [])
    let entries := built.flatMap (·.2)
    (entries.map fun (key, value) => .pair key.value value.value, built.findSome? (·.1),
      entries.flatMap fun (key, value) => [key, value])
  | _ => ([], some (.problem (.wrongShape "a sequence" node.shape) node.start), [])

/-- The value of a node. The number bounds the depth of the tree. -/
def build : Nat → Node → Built
  | 0, _ => ⟨.null, []⟩
  | fuel + 1, node =>
    match node.tag with
    | .seq =>
      match node with
      | .sequence _ items _ =>
        let content := items.map (build fuel)
        .around (.list (content.map (·.value))) (content.findSome? (·.outerFault)) content
      | _ =>
        .around .null (some (.problem (.wrongShape "a sequence node" node.shape) node.start)) []
    | .map =>
      let (entries, fault, content) := buildEntries (build fuel) (fuel + 1) node
      .around (.map entries) fault content
    | .set =>
      let (entries, fault, content) := buildEntries (build fuel) (fuel + 1) node
      .around (.set (entries.map (·.1))) fault content
    | .orderedMap | .pairs =>
      let (entries, fault, content) := buildOrdered (build fuel) node
      .around (.list entries) fault content
    | .merge | .value | .other _ =>
      .ofScalar (.error (.problem (.unknownTag node.tag.text) node.start))
    | _ => .ofScalar (scalarOf (fuel + 1) node)

/-- The value of a text. A text without a document has the value null. -/
def read (text : String) : Except Fault Value := do
  let cs := text.toList
  match ← readNode cs with
  | none => return .null
  | some node =>
    let built := build (cs.length + 2) node
    match built.firstFault? with
    | some fault => throw fault
    | none => return built.value

end DocGraph.Yaml
