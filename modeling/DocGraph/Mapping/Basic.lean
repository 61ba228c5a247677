import DocGraph.Definition.Basic
import DocGraph.Transform.Basic

/-!
# Graph mappings

A mapping is a definition that has been checked and completed: every property has a name
and a type, and every transform its parameters. Types and names are still as declared.

## Main definitions

* `GraphMapping`: the whole mapping.
* `VertexMapping`, `EdgeMapping`, `Property`, `PropertyTransform`: its parts.
-/

namespace DocGraph

/-- The kind of a transform. -/
inductive TransformKind where
  | none | arrayToBool | arrayJoin | custom
  deriving DecidableEq, Repr

namespace TransformKind

def name : TransformKind → String
  | .none => "NONE"
  | .arrayToBool => "ARRAY_TO_BOOL"
  | .arrayJoin => "ARRAY_JOIN"
  | .custom => "CUSTOM"

def all : List TransformKind := [.none, .arrayToBool, .arrayJoin, .custom]

/-- The kind with a declared name in any letter case. No name stands for no kind, and any
other name for a custom transform. -/
def ofDeclared (declared : Option String) : TransformKind :=
  match declared with
  | Option.none | some "" => .none
  | some name => (all.find? fun kind => kind.name = upper name).getD .custom

end TransformKind

/-- The registered name of the transform that joins arrays. -/
def joinTransformName : String := "array_join"

/-- A transform attached to a property. -/
structure PropertyTransform where
  kind : TransformKind := .none
  name : Option String := none
  params : Params := []
  rules : List TransformRule := []
  deriving DecidableEq, Repr

namespace PropertyTransform

/-- The name under which the transform is registered. A transform that joins arrays has one
even if none is given. -/
def registryName? (transform : PropertyTransform) : Option String :=
  match transform.name.filter (· ≠ "") with
  | some name => some name
  | none => if transform.kind = .arrayJoin then some joinTransformName else none

def describe (transform : PropertyTransform) : String :=
  transform.registryName?.getD transform.kind.name

end PropertyTransform

/-- Which entries of a record become properties without being declared. -/
structure DynamicFields where
  enabled : Bool := false
  /-- Names of types, in upper case; none means that all types are allowed. -/
  allowedTypes : List String := []
  excludedProperties : List String := []
  deriving DecidableEq, Repr

/-- A property of a vertex or an edge. -/
structure Property where
  name : String
  path : String
  /-- The type as declared. -/
  type : String
  optional : Bool := false
  indexable : Bool := false
  maxLength : Option Int := none
  default : Option String := none
  transform : Option PropertyTransform := none
  deriving DecidableEq, Repr

/-- How the records under a path become vertices. -/
structure VertexMapping where
  tag : String
  source : String
  key : String
  properties : List Property := []
  dynamicFields : DynamicFields := {}
  deriving DecidableEq, Repr

/-- One end of an edge: the tag of its vertex, and the path to the key of the vertex. -/
structure Endpoint where
  tag : String
  key : String
  deriving DecidableEq, Repr

/-- How the records under a path become edges. -/
structure EdgeMapping where
  name : String
  source : String
  start : Endpoint
  target : Endpoint
  properties : List Property := []
  deriving DecidableEq, Repr

/-- What holds for the whole mapping. -/
structure Settings where
  /-- The length of strings without one of their own. -/
  stringLength : Option Int := none
  arrayDelimiter : String := defaultDelimiter
  allowDynamicTags : Bool := false
  deriving DecidableEq, Repr

/-- A whole mapping, in the order of the definition. -/
structure GraphMapping where
  vertices : List VertexMapping := []
  edges : List EdgeMapping := []
  transforms : List (String × PropertyTransform) := []
  settings : Settings := {}
  deriving DecidableEq, Repr

end DocGraph
