import DocGraph.Mapping.Basic

/-!
# Building mappings from definitions

## Main definitions

* `MappingFault`: why a definition makes no mapping.
* `defaultPropertyName`: the name of a property that is not given one.
* `bracketsBalanced`: the check of the paths of sources and properties.
* `buildTransform`, `buildProperty`, `buildVertex`, `buildEdge`: the parts.
* `buildMapping`: the mapping of a definition.
-/

namespace DocGraph

/-- One end of an edge. -/
inductive EndRole where
  | source | target
  deriving DecidableEq, Repr

def EndRole.name : EndRole → String
  | .source => "source"
  | .target => "target"

/-- Why a definition makes no mapping. -/
inductive MappingFault where
  | missingType (property : String)
  | emptySource (element : String)
  | unbalancedSource (path element : String)
  /-- The owner is an element, or an end of an edge. -/
  | emptyKey (owner : String)
  | emptyEndTag (role : EndRole) (edge : String)
  | duplicateProperty (property element : String)
  | emptyPath (property element : String)
  | unbalancedPath (path property element : String)
  deriving DecidableEq, Repr

namespace MappingFault

def message : MappingFault → String
  | .missingType _ => "Missing 'type' field in property"
  | .emptySource _ => "Source path cannot be empty"
  | .unbalancedSource path _ => s!"Invalid source path: {path}"
  | .emptyKey _ => "Key field cannot be empty"
  | .emptyEndTag role _ => s!"Edge {role.name} tag cannot be empty"
  | .duplicateProperty property _ => s!"Duplicate property name: {property}"
  | .emptyPath .. => "Property path cannot be empty"
  | .unbalancedPath path .. => s!"Invalid property path: {path}"

/-- The element or property that a fault is about. -/
def context : MappingFault → String
  | .missingType property => property
  | .emptySource element | .unbalancedSource _ element | .emptyEndTag _ element
  | .duplicateProperty _ element => element
  | .emptyKey owner => owner
  | .emptyPath property element | .unbalancedPath _ property element => s!"{element}.{property}"

end MappingFault

/-- Fails unless a condition holds. -/
def require {ε : Type} (condition : Bool) (fault : ε) : Except ε Unit :=
  if condition then .ok () else .error fault

/-- Whether brackets close what is open and nothing else, given how many are open. -/
def closesBrackets : Nat → List Char → Bool
  | depth, [] => depth == 0
  | depth, c :: rest =>
    if c = '[' then closesBrackets (depth + 1) rest
    else if c = ']' then
      match depth with
      | 0 => false
      | depth + 1 => closesBrackets depth rest
    else closesBrackets depth rest

/-- Whether the brackets of a path are balanced. -/
def bracketsBalanced (path : String) : Bool := closesBrackets 0 path.toList

/-- The name of a property that is not given one: its path without slashes in front, points
and slashes replaced by underscores. -/
def defaultPropertyName (path : String) : String :=
  replaceChar '/' '_' (replaceChar '.' '_' (String.ofList (path.toList.dropWhile (· == '/'))))

/-- The parameters of a transform. The delimiter for arrays is filled in where it is needed
and not given. -/
def buildParams (definition : TransformDefinition) (kind : TransformKind) (settings : Settings) :
    Params :=
  let params := definition.params
  let params := match definition.format with
    | some format => insertPair params "format" format
    | none => params
  match definition.delimiter with
  | some delimiter => insertPair params "delimiter" delimiter
  | none =>
    let joins := kind = .arrayJoin || definition.name = some joinTransformName
    if joins && (params.lookup "delimiter").isNone then
      insertPair params "delimiter" settings.arrayDelimiter
    else params

/-- The rules of a transform. Mappings of its own make one more rule. -/
def buildRules (definition : TransformDefinition) : List TransformRule :=
  if definition.mappings.isEmpty then definition.rules
  else definition.rules ++ [{
    field := definition.field.getD ""
    condition := definition.condition.getD ""
    mappings := definition.mappings }]

def isUntyped (definition : TransformDefinition) : Bool :=
  definition.type.isNone || definition.type = some ""

/-- A transform. A name without a type refers to the named transform if there is one. -/
def buildTransform (definition : TransformDefinition) (settings : Settings)
    (named : List (String × PropertyTransform)) : PropertyTransform :=
  match definition.name.bind (List.lookup · named), isUntyped definition with
  | some transform, true => transform
  | _, _ =>
    let kind := TransformKind.ofDeclared definition.type
    { kind := kind
      name := definition.name
      params := buildParams definition kind settings
      rules := buildRules definition }

/-- A named transform. Without a name and a kind of its own it is registered under the name
that it has in the definition. -/
def buildNamedTransform (settings : Settings) (entry : String × TransformDefinition) :
    String × PropertyTransform :=
  let transform := buildTransform entry.2 settings []
  if transform.name.isNone && transform.kind = .none then
    (entry.1, { transform with name := some entry.1 })
  else (entry.1, transform)

/-- The name of a property: its own unless that is missing or empty. -/
def propertyName (definition : PropertyDefinition) : String :=
  (definition.name.filter (· ≠ "")).getD (defaultPropertyName definition.path)

/-- The declared type of a property: its own, or that of the first rule of its transform. -/
def propertyType (definition : PropertyDefinition) (transform : Option PropertyTransform) :
    String :=
  match definition.type.filter (· ≠ "") with
  | some type => type
  | none => ((transform.bind (·.rules.head?)).map (·.type)).getD ""

def buildProperty (definition : PropertyDefinition) (settings : Settings)
    (named : List (String × PropertyTransform)) : Except MappingFault Property := do
  let name := propertyName definition
  let transform := definition.transform.map (buildTransform · settings named)
  let type := propertyType definition transform
  require (type ≠ "") (.missingType name)
  return {
    name := name
    path := definition.path
    type := type
    optional := definition.optional
    indexable := definition.index.getD (definition.indexable.getD false)
    maxLength := definition.maxLength
    default := definition.default
    transform := transform }

/-- Checks the properties of an element one after the other, given the names so far: no name
occurs twice, and every path is there and has balanced brackets. -/
def checkProperties (element : String) (seen : List String) :
    List Property → Except MappingFault Unit
  | [] => .ok ()
  | property :: rest => do
    require (!seen.contains property.name) (.duplicateProperty property.name element)
    require (property.path ≠ "") (.emptyPath property.name element)
    require (bracketsBalanced property.path) (.unbalancedPath property.path property.name element)
    checkProperties element (property.name :: seen) rest

def checkSource (path element : String) : Except MappingFault Unit := do
  require (path ≠ "") (.emptySource element)
  require (bracketsBalanced path) (.unbalancedSource path element)

def buildProperties (definitions : List PropertyDefinition) (element : String) (settings : Settings)
    (named : List (String × PropertyTransform)) : Except MappingFault (List Property) := do
  let properties ← definitions.mapM (buildProperty · settings named)
  checkProperties element [] properties
  return properties

/-- Dynamic fields; the names of types are brought into upper case. -/
def buildDynamicFields (definition : DynamicFieldsDefinition) : DynamicFields where
  enabled := definition.enabled
  allowedTypes := (definition.allowedTypes.map upper).eraseDups
  excludedProperties := definition.excludedProperties.eraseDups

def buildVertex (settings : Settings) (named : List (String × PropertyTransform))
    (entry : String × TagDefinition) : Except MappingFault VertexMapping := do
  let (tag, definition) := entry
  checkSource definition.source tag
  require (definition.key ≠ "") (.emptyKey tag)
  let properties ← buildProperties definition.properties tag settings named
  return {
    tag := tag
    source := definition.source
    key := definition.key
    properties := properties
    dynamicFields := buildDynamicFields definition.dynamicFields }

def checkEndpoint (edge : String) (role : EndRole) (endpoint : Endpoint) :
    Except MappingFault Unit := do
  require (endpoint.tag ≠ "") (.emptyEndTag role edge)
  require (endpoint.key ≠ "") (.emptyKey s!"{edge}.{role.name}")

def buildEdge (settings : Settings) (named : List (String × PropertyTransform))
    (entry : String × EdgeDefinition) : Except MappingFault EdgeMapping := do
  let (edge, definition) := entry
  checkSource definition.source edge
  let start : Endpoint := ⟨definition.sourceTag, definition.sourceKey⟩
  let target : Endpoint := ⟨definition.targetTag, definition.targetKey⟩
  checkEndpoint edge .source start
  checkEndpoint edge .target target
  let properties ← buildProperties definition.properties edge settings named
  return {
    name := edge
    source := definition.source
    start := start
    target := target
    properties := properties }

/-- The settings; a string length of zero counts as none. -/
def buildSettings (definition : SettingsDefinition) : Settings where
  stringLength := definition.stringLength.filter (· ≠ 0)
  arrayDelimiter := definition.arrayDelimiter
  allowDynamicTags := definition.dynamicTags

def buildMapping (definition : MappingDefinition) : Except MappingFault GraphMapping := do
  let settings := buildSettings definition.settings
  let named := definition.transforms.map (buildNamedTransform settings)
  let vertices ← definition.tags.mapM (buildVertex settings named)
  let edges ← definition.edges.mapM (buildEdge settings named)
  return { vertices := vertices, edges := edges, transforms := named, settings := settings }

end DocGraph
