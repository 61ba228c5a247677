import DocGraph.Number.Shortest
import DocGraph.Path.Basic
import DocGraph.Schema.ValueType

/-!
# Faults of documents

What can be missing or out of place in a document, seen from a mapping.

## Main definitions

* `DataFault`: the faults.
* `DataFault.message`, `DataFault.context`, `DataFault.path`: their wording and their place.
-/

namespace DocGraph

/-- What is wrong with a document. -/
inductive DataFault where
  /-- The path of a source leads nowhere. -/
  | source (fault : PathFault) (path : String)
  /-- The path of a key leads nowhere. -/
  | key (fault : PathFault) (path : String)
  | nullKey (path : String)
  | infiniteKey (key : Binary64) (path : String)
  /-- A key is neither a text nor a number. -/
  | keyKind (path : String)
  /-- The path of a property leads nowhere. -/
  | value (fault : PathFault) (property path : String)
  /-- A value that is to be transformed is not a single one. -/
  | notTransformable (path : String)
  | infiniteValue (value : Binary64) (path : String)
  /-- A value cannot be read as its declared type. -/
  | valueKind (kind : JsonKind) (type : ValueType) (path : String)
  deriving DecidableEq, Repr

namespace DataFault

def message : DataFault → String
  | .source fault _ => s!"Failed to extract data: {fault.message}"
  | .key fault _ => s!"Failed to extract vertex ID: {fault.message}"
  | .nullKey _ => "Vertex ID cannot be null"
  | .infiniteKey number _ => s!"Vertex ID is not a finite number: {number.text}"
  | .keyKind _ => "Invalid vertex ID type"
  | .value fault .. => s!"Failed to extract value: {fault.message}"
  | .notTransformable _ => "Unsupported value type for transformation"
  | .infiniteValue number _ => s!"Value conversion error: {number.text} is not a finite number"
  | .valueKind kind type _ => s!"Value conversion error: cannot read {kind.name} as {type.name}"

def path : DataFault → String
  | .source _ path | .key _ path | .nullKey path | .infiniteKey _ path | .keyKind path
  | .value _ _ path | .notTransformable path | .infiniteValue _ path | .valueKind _ _ path => path

/-- What a fault is about: a property by its name, most other things by their path. -/
def context : DataFault → Option String
  | .key .. => none
  | .value _ property _ => some property
  | fault => some fault.path

end DataFault

end DocGraph
