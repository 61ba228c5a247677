import DocGraph.Definition.Basic
import DocGraph.Json.Basic

/-!
# Writing mapping definitions out

A definition as a JSON value with all its fields, defaults included, under the first of
their names that is not an abbreviation.

## Main definitions

* `MappingDefinition.dump`: the value of a definition.
-/

namespace DocGraph

namespace Json

def ofText? (text : Option String) : Json := (text.map Json.string).getD .null

def ofBool? (b : Option Bool) : Json := (b.map Json.bool).getD .null

def ofInteger? (n : Option Int) : Json := (n.map Json.integer).getD .null

def ofTexts (texts : List (String × String)) : Json :=
  .object (texts.map fun (name, text) => (name, .string text))

def ofList (texts : List String) : Json := .array (texts.map .string)

end Json

def TransformRule.dump (rule : TransformRule) : Json :=
  .object [("name", .string rule.name), ("type", .string rule.type),
    ("condition", .string rule.condition), ("value", .string rule.value),
    ("field", .string rule.field), ("mappings", .ofTexts rule.mappings)]

def TransformDefinition.dump (transform : TransformDefinition) : Json :=
  .object [("name", .ofText? transform.name), ("type", .ofText? transform.type),
    ("delimiter", .ofText? transform.delimiter), ("format", .ofText? transform.format),
    ("field", .ofText? transform.field), ("condition", .ofText? transform.condition),
    ("mappings", .ofTexts transform.mappings),
    ("rules", .array (transform.rules.map TransformRule.dump)),
    ("params", .ofTexts transform.params)]

def DynamicFieldsDefinition.dump (fields : DynamicFieldsDefinition) : Json :=
  .object [("enabled", .bool fields.enabled), ("allowed_types", .ofList fields.allowedTypes),
    ("excluded_properties", .ofList fields.excludedProperties)]

def PropertyDefinition.dump (property : PropertyDefinition) : Json :=
  .object [("json_path", .string property.path), ("name", .ofText? property.name),
    ("type", .ofText? property.type), ("optional", .bool property.optional),
    ("index", .ofBool? property.index), ("indexable", .ofBool? property.indexable),
    ("max_length", .ofInteger? property.maxLength), ("default", .ofText? property.default),
    ("transform", (property.transform.map TransformDefinition.dump).getD .null)]

def TagDefinition.dump (tag : TagDefinition) : Json :=
  .object [("source", .string tag.source), ("key", .string tag.key),
    ("dynamic_fields", tag.dynamicFields.dump),
    ("properties", .array (tag.properties.map PropertyDefinition.dump))]

def EdgeDefinition.dump (edge : EdgeDefinition) : Json :=
  .object [("source", .string edge.source), ("source_tag", .string edge.sourceTag),
    ("target_tag", .string edge.targetTag), ("source_key", .string edge.sourceKey),
    ("target_key", .string edge.targetKey),
    ("properties", .array (edge.properties.map PropertyDefinition.dump))]

def SettingsDefinition.dump (settings : SettingsDefinition) : Json :=
  .object [("string_length", .ofInteger? settings.stringLength),
    ("array_delimiter", .string settings.arrayDelimiter),
    ("dynamic_tags", .bool settings.dynamicTags)]

def dumpSection {α : Type} (dump : α → Json) (entries : List (String × α)) : Json :=
  .object (entries.map fun (name, item) => (name, dump item))

def MappingDefinition.dump (definition : MappingDefinition) : Json :=
  .object [("settings", definition.settings.dump),
    ("tags", dumpSection TagDefinition.dump definition.tags),
    ("edges", dumpSection EdgeDefinition.dump definition.edges),
    ("transforms", dumpSection TransformDefinition.dump definition.transforms)]

end DocGraph
