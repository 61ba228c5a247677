import DocGraph.Definition.Basic
import DocGraph.Definition.Field

/-!
# Reading mapping definitions

A definition is read from a value, field by field in a fixed order; the first field that
does not hold what it should is the fault. Entries that are no field are passed over. Two
fields have two names each: the path of a property is `json` or `json_path`, and the source
of a tag or an edge is `from` or `source`.

## Main definitions

* `DefinitionFault`: why a value is no definition.
* `MappingDefinition.ofValue`: the definition of a value.
-/

namespace DocGraph

open Yaml (Value)

/-- Why a value is no definition. -/
inductive DefinitionFault where
  | notMapping
  | field (fault : LocatedFault)
  deriving DecidableEq, Repr

namespace DefinitionFault

def message : DefinitionFault → String
  | .notMapping => "Mapping definition must be a mapping at the top level"
  | .field f => s!"Invalid mapping definition: {f.fault.message}"

/-- The place of a fault inside the definition. -/
def context : DefinitionFault → Option String
  | .notMapping => none
  | .field f => some (joinText "." f.location)

end DefinitionFault

/-- A text, or the written form of a number. -/
def readWritten : Value → Reads String := readText true

def readTexts : Value → Reads (List (String × String)) := readDictionary readWritten

def readRule (value : Value) : Reads TransformRule := do
  let entries ← readRecord "TransformRuleDefinition" value
  let text (name : String) := readField entries [name] "" readWritten
  return {
    name := ← text "name"
    type := ← text "type"
    condition := ← text "condition"
    value := ← text "value"
    field := ← text "field"
    mappings := ← readField entries ["mappings"] [] readTexts }

/-- The long form of a transform: a text is its name, and a list is a custom transform of
these rules. -/
def expandTransform : Value → Value
  | .string name => .map [(.string "name", .string name)]
  | .list rules => .map [(.string "type", .string "CUSTOM"), (.string "rules", .list rules)]
  | value => value

def readTransform (value : Value) : Reads TransformDefinition := do
  let entries ← readRecord "TransformDefinition" (expandTransform value)
  let text? (name : String) := readField entries [name] none (readOptional readWritten)
  return {
    name := ← text? "name"
    type := ← text? "type"
    delimiter := ← text? "delimiter"
    format := ← text? "format"
    field := ← text? "field"
    condition := ← text? "condition"
    mappings := ← readField entries ["mappings"] [] readTexts
    rules := ← readField entries ["rules"] [] (readItems readRule)
    params := ← readField entries ["params"] [] readTexts }

/-- The long form of dynamic fields: a truth value only says whether they are enabled. -/
def expandDynamicFields : Value → Value
  | .bool enabled => .map [(.string "enabled", .bool enabled)]
  | .null => .map []
  | value => value

/-- Dynamic fields. Numbers are no names here. -/
def readDynamicFields (value : Value) : Reads DynamicFieldsDefinition := do
  let entries ← readRecord "DynamicFieldsDefinition" (expandDynamicFields value)
  let names (name : String) := readField entries [name] [] (readItems (readText false))
  return {
    enabled := ← readField entries ["enabled"] false readBool
    allowedTypes := ← names "allowed_types"
    excludedProperties := ← names "excluded_properties" }

/-- The default of a property as it is written in declarations. -/
def readDefault (value : Value) : Reads String :=
  match value with
  | .bool b => .ok (if b then "true" else "false")
  | _ => readWritten value

def readProperty (value : Value) : Reads PropertyDefinition := do
  let entries ← readRecord "PropertyDefinition" value
  let text? (name : String) := readField entries [name] none (readOptional readWritten)
  let bool? (name : String) := readField entries [name] none (readOptional readBool)
  return {
    path := ← requireField entries ["json", "json_path"] readWritten
    name := ← text? "name"
    type := ← text? "type"
    optional := ← readField entries ["optional"] false readBool
    index := ← bool? "index"
    indexable := ← bool? "indexable"
    maxLength := ← readField entries ["max_length"] none (readOptional readWhole)
    default := ← readField entries ["default"] none (readOptional readDefault)
    transform := ← readField entries ["transform"] none (readOptional readTransform) }

/-- A value, with an empty one in the place of null. -/
def orEmpty (empty : Value) : Value → Value
  | .null => empty
  | value => value

/-- The properties of a tag or an edge; null stands for none. -/
def readProperties (value : Value) : Reads (List PropertyDefinition) :=
  readItems readProperty (orEmpty (.list []) value)

def readTag (value : Value) : Reads TagDefinition := do
  let entries ← readRecord "TagDefinition" value
  return {
    source := ← requireField entries ["from", "source"] readWritten
    key := ← readField entries ["key"] defaultKey readWritten
    dynamicFields := ← readField entries ["dynamic_fields"] {} readDynamicFields
    properties := ← readField entries ["properties"] [] readProperties }

def readEdge (value : Value) : Reads EdgeDefinition := do
  let entries ← readRecord "EdgeDefinition" value
  return {
    source := ← requireField entries ["from", "source"] readWritten
    sourceTag := ← requireField entries ["source_tag"] readWritten
    targetTag := ← requireField entries ["target_tag"] readWritten
    sourceKey := ← readField entries ["source_key"] defaultKey readWritten
    targetKey := ← readField entries ["target_key"] defaultKey readWritten
    properties := ← readField entries ["properties"] [] readProperties }

/-- The settings; null stands for the defaults. -/
def readSettings (value : Value) : Reads SettingsDefinition := do
  let entries ← readRecord "SettingsDefinition" (orEmpty (.map []) value)
  return {
    stringLength := ← readField entries ["string_length"] none (readOptional readWhole)
    arrayDelimiter := ← readField entries ["array_delimiter"] "," readWritten
    dynamicTags := ← readField entries ["dynamic_tags"] false readBool }

/-- A section of named things; null stands for none. -/
def readSection {α : Type} (read : Value → Reads α) (value : Value) : Reads (List (String × α)) :=
  readDictionary read (orEmpty (.map []) value)

def readDefinition (entries : List (Value × Value)) : Reads MappingDefinition := do
  return {
    settings := ← readField entries ["settings"] {} readSettings
    tags := ← readField entries ["tags"] [] (readSection readTag)
    edges := ← readField entries ["edges"] [] (readSection readEdge)
    transforms := ← readField entries ["transforms"] [] (readSection readTransform) }

/-- The definition of a value; null is the empty definition. -/
def MappingDefinition.ofValue (value : Value) : Except DefinitionFault MappingDefinition :=
  match value with
  | .null => (readDefinition []).mapError .field
  | .map entries => (readDefinition entries).mapError .field
  | _ => .error .notMapping

end DocGraph
