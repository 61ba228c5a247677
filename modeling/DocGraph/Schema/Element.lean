import DocGraph.Mapping.Basic
import DocGraph.Schema.Identifier

/-!
# Elements of a schema

An element is a tag or an edge type with its columns, as it will be declared.

## Main definitions

* `Column`, `Element`: the parts of a schema.
* `SchemaFault`: why a mapping has no schema.
* `declaredType`: the type of a declared name with a requested length.
* `Element.ofVertex`, `Element.ofEdge`: the element of a mapping.
* `Element.check`: whether all names may be declared.
* `schemaElements`: the elements of a whole mapping.
-/

namespace DocGraph

/-- Why there is no schema. -/
inductive SchemaFault where
  /-- No type has this name, or no name is given. -/
  | unsupportedType (declared : Option String)
  | lengthExceeded (length : Int) (declared : String)
  | elementName (name : String)
  | columnName (name element : String)
  /-- Two declarations to be merged are not of the same element. -/
  | mismatch (first second : String)
  deriving DecidableEq, Repr

namespace SchemaFault

def message : SchemaFault → String
  | .unsupportedType none => "Unsupported type: None"
  | .unsupportedType (some declared) => s!"Unsupported type: {declared}"
  | .lengthExceeded length _ => s!"String length exceeds maximum allowed: {length}"
  | .elementName name => s!"Invalid schema element name: {name}"
  | .columnName name _ => s!"Invalid property name: {name}"
  | .mismatch .. => "Schema elements do not match"

def context : SchemaFault → Option String
  | .unsupportedType _ | .elementName _ => none
  | .lengthExceeded _ declared => some declared
  | .columnName _ element => some element
  | .mismatch first second => some s!"{first} vs {second}"

end SchemaFault

def resolveType (declared : Option String) : Except SchemaFault ValueType :=
  match ValueType.resolve? (declared.getD "") with
  | some type => .ok type
  | none => .error (.unsupportedType declared)

/-- The column type of a declared name with a requested length. -/
def declaredType (declared : Option String) (requested : Option Int) :
    Except SchemaFault ColumnType := do
  let type ← resolveType declared
  (ColumnType.ofValueType type requested).mapError (.lengthExceeded · (declared.getD ""))

/-- Whether an element is a tag or an edge type. -/
inductive ElementKind where
  | tag | edge
  deriving DecidableEq, Repr

def ElementKind.keyword : ElementKind → String
  | .tag => "TAG"
  | .edge => "EDGE"

/-- A column of an element. -/
structure Column where
  name : String
  /-- The type as it is written. -/
  type : String
  nullable : Bool := false
  indexable : Bool := false
  default : Option String := none
  /-- The length of the part of a string that is indexed. -/
  fixedLength : Option Int := none
  deriving DecidableEq, Repr

/-- A tag or an edge type. -/
structure Element where
  kind : ElementKind
  name : String
  columns : List Column := []
  /-- The tags that an edge can start from, each once. -/
  fromTags : List String := []
  /-- The tags that an edge can lead to, each once. -/
  toTags : List String := []
  deriving DecidableEq, Repr

/-- A length that counts: one that is given and not zero. -/
def countingLength (length : Option Int) : Option Int := length.filter (· ≠ 0)

def columnOf (settings : Settings) (property : Property) : Except SchemaFault Column := do
  let requested := (countingLength property.maxLength).or settings.stringLength
  let type ← declaredType (some property.type) requested
  return {
    name := property.name
    type := type.text
    nullable := property.optional
    indexable := property.indexable
    default := property.default
    fixedLength := property.maxLength }

namespace Element

def ofVertex (settings : Settings) (mapping : VertexMapping) : Except SchemaFault Element := do
  return {
    kind := .tag
    name := mapping.tag
    columns := ← mapping.properties.mapM (columnOf settings) }

def ofEdge (settings : Settings) (mapping : EdgeMapping) : Except SchemaFault Element := do
  return {
    kind := .edge
    name := mapping.name
    columns := ← mapping.properties.mapM (columnOf settings)
    fromTags := [mapping.start.tag]
    toTags := [mapping.target.tag] }

/-- Checks that the element and its columns have names that may be declared. -/
def check (element : Element) : Except SchemaFault Unit :=
  if !isDeclarable element.name then .error (.elementName element.name)
  else
    match element.columns.find? (!isDeclarable ·.name) with
    | some column => .error (.columnName column.name element.name)
    | none => .ok ()

/-- The element, if it passes the check. -/
def checked (element : Element) : Except SchemaFault Element := do
  element.check
  return element

end Element

/-- The elements of a mapping: its tags, then its edge types. -/
def schemaElements (mapping : GraphMapping) : Except SchemaFault (List Element) := do
  let tags ← mapping.vertices.mapM fun v => do (← Element.ofVertex mapping.settings v).checked
  let edges ← mapping.edges.mapM fun e => do (← Element.ofEdge mapping.settings e).checked
  return tags ++ edges

end DocGraph
