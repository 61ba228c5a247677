/-!
# Mapping definitions

A definition is what a user writes: which records of a document become vertices and edges
of a graph, and how their properties are found. Nothing in it has been checked yet beyond
its shape.

## Main definitions

* `MappingDefinition`: the whole definition.
* `TagDefinition`, `EdgeDefinition`, `PropertyDefinition`, `TransformDefinition`: its parts.
-/

namespace DocGraph

/-- One rule of a transform that is a list of rules. -/
structure TransformRule where
  name : String := ""
  type : String := ""
  condition : String := ""
  value : String := ""
  field : String := ""
  /-- Property names by value. -/
  mappings : List (String × String) := []
  deriving DecidableEq, Repr

/-- How the value of a property is transformed. -/
structure TransformDefinition where
  name : Option String := none
  type : Option String := none
  delimiter : Option String := none
  format : Option String := none
  field : Option String := none
  condition : Option String := none
  mappings : List (String × String) := []
  rules : List TransformRule := []
  params : List (String × String) := []
  deriving DecidableEq, Repr

/-- Which entries of a record become properties without being declared. -/
structure DynamicFieldsDefinition where
  enabled : Bool := false
  allowedTypes : List String := []
  excludedProperties : List String := []
  deriving DecidableEq, Repr

/-- A property of a tag or an edge. -/
structure PropertyDefinition where
  path : String
  name : Option String := none
  type : Option String := none
  optional : Bool := false
  index : Option Bool := none
  indexable : Option Bool := none
  maxLength : Option Int := none
  /-- The default in declarations, as it is written there. -/
  default : Option String := none
  transform : Option TransformDefinition := none
  deriving DecidableEq, Repr

/-- The path to the key of a record unless another is given. -/
def defaultKey : String := "id"

/-- A kind of vertex. -/
structure TagDefinition where
  source : String
  key : String := defaultKey
  dynamicFields : DynamicFieldsDefinition := {}
  properties : List PropertyDefinition := []
  deriving DecidableEq, Repr

/-- A kind of edge. -/
structure EdgeDefinition where
  source : String
  sourceTag : String
  targetTag : String
  sourceKey : String := defaultKey
  targetKey : String := defaultKey
  properties : List PropertyDefinition := []
  deriving DecidableEq, Repr

/-- What holds for the whole definition. -/
structure SettingsDefinition where
  stringLength : Option Int := none
  arrayDelimiter : String := ","
  dynamicTags : Bool := false
  deriving DecidableEq, Repr

/-- A whole definition. Tags, edges and transforms keep their order. -/
structure MappingDefinition where
  settings : SettingsDefinition := {}
  tags : List (String × TagDefinition) := []
  edges : List (String × EdgeDefinition) := []
  transforms : List (String × TransformDefinition) := []
  deriving DecidableEq, Repr

end DocGraph
