import DocGraph.Failure
import DocGraph.Graph.Statement
import DocGraph.Path.Cache
import DocGraph.Transform.Registry

/-!
# Statements of a document

The records of a document become statements under the direction of a mapping. A run keeps a
session, which survives its failures: the paths that were split, and the vertices that were
written.

## Main definitions

* `Session`, `Generation`: the state of a run, and its steps.
* `recordsAt`, `vertexIdAt`, `propertyValue`: what is taken out of a document.
* `vertexStatements`, `edgeStatements`: the statements of one mapping.
* `BatchSize`, `dataStatements`, `batchedStatements`: the statements of a whole mapping.
-/

namespace DocGraph

/-- What a run keeps. -/
structure Session where
  cache : PathCache := .empty
  /-- The vertices with dynamic fields that have been written, each once. -/
  seen : List VertexId := []
  deriving DecidableEq, Repr

/-- A step of a run. -/
abbrev Generation := ExceptT Failure (StateM Session)

namespace Generation

/-- A step that only uses the cache of paths. -/
def ofCache {α : Type} (step : StateM PathCache α) : Generation α := do
  let session ← get
  let (result, cache) := step.run session.cache
  set { session with cache := cache }
  return result

/-- A step that uses no state. -/
def ofExcept {ε α : Type} (toFailure : ε → Failure) (step : Except ε α) : Generation α :=
  match step with
  | .ok a => return a
  | .error fault => throw (toFailure fault)

/-- Notes that a vertex is written. Tells whether it had not been before. -/
def markSeen (id : VertexId) : Generation Bool := do
  let session ← get
  if session.seen.contains id then return false
  else
    set { session with seen := session.seen ++ [id] }
    return true

/-- A step with written vertices of its own: it starts with given ones and gives out those at
its end. The vertices of the run around it stay as they are. -/
def apart {α : Type} (seen : List VertexId) (step : Generation α) :
    Generation (α × List VertexId) := fun session =>
  let (result, after) := step.run { session with seen := seen }
  (result.map (·, after.seen), { after with seen := session.seen })

end Generation

open Generation

def valueAt (document : Json) (path : String) (toFault : PathFault → DataFault) :
    Generation Json := do
  ofExcept (.ofPath fun fault => .data (toFault fault))
    (← ofCache (PathCache.resolve document path))

/-- The records under a path: the items of an array, and anything else by itself. -/
def recordsAt (document : Json) (path : String) : Generation (List Json) := do
  match ← valueAt document path (.source · path) with
  | .array items => return items
  | value => return [value]

/-- The identifier of a key. A number is cut down to its whole part. -/
def vertexIdOf (key : Json) (path : String) : Except DataFault VertexId :=
  match key with
  | .null => .error (.nullKey path)
  | .string s => .ok ⟨s⟩
  | .integer n => .ok ⟨toString n⟩
  | .float x =>
    match x.trunc with
    | some n => .ok ⟨toString n⟩
    | none => .error (.infiniteKey x path)
  | _ => .error (.keyKind path)

/-- The identifier of the vertex whose key stands under a path. -/
def vertexIdAt (record : Json) (path : String) : Generation VertexId := do
  let key ← valueAt record path (.key · path)
  ofExcept .data (vertexIdOf key path)

/-- A whole number as a binary number. -/
def doubleOfInteger (n : Int) : Except Failure Scalar :=
  (Binary64.ofInt? n).elim (.error (.breakdown .oversizedNumber)) fun x => .ok (.float x)

/-- A scalar read as a type. Truth values count as one and zero for numbers, and a number is
cut down to its whole part for whole numbers. -/
def readAs (type : ValueType) (scalar : Scalar) : Option (Except Failure Scalar) :=
  if type.isInteger then
    match scalar with
    | .integer n => some (.ok (.integer n))
    | .float x => x.trunc.map fun n => .ok (.integer n)
    | .bool b => some (.ok (.integer (if b then 1 else 0)))
    | .text _ => none
  else
    match type, scalar with
    | .double, .integer n => some (doubleOfInteger n)
    | .double, .float x => some (.ok (.float x))
    | .double, .bool b => some (.ok (.float (.ofBool b)))
    | .double, .text _ => none
    | .bool, .bool b => some (.ok (.bool b))
    | .bool, _ => none
    | _, .text s => some (.ok (.text s))
    | _, _ => none

/-- Whether a value is a number that is not finite. -/
def infinite? : Json → Option Binary64
  | .float x => if x.isFinite then none else some x
  | _ => none

def convertTo (type : ValueType) (value : Json) (path : String) : Except Failure Scalar :=
  match infinite? value, (Scalar.ofJson? value).bind (readAs type) with
  | some x, _ => .error (.data (.infiniteValue x path))
  | none, some read => read
  | none, none => .error (.data (.valueKind value.kind type path))

def transformed (registry : TransformRegistry) (transform : PropertyTransform) (value : Json)
    (path : String) : Except Failure Scalar :=
  if (Scalar.ofJson? value).isNone then .error (.data (.notTransformable path))
  else
    match transform.registryName? with
    | none => .error (.transform (.notFound transform.describe) (some path))
    | some name =>
      match registry.apply name value transform.params with
      | .ok result => .ok result.value
      | .error fault => .error (Failure.ofTransform (some path) fault)

/-- The literal of a property whose value in a record is known. Null stays null. -/
def literalOf (registry : TransformRegistry) (property : Property) (type : ValueType)
    (value : Json) : Except Failure Literal :=
  match value, property.transform with
  | .null, _ => .ok .null
  | _, some transform => .value <$> transformed registry transform value property.path
  | _, none => .value <$> convertTo type value property.path

/-- The literal of a property of a record, with the type of the property. -/
def propertyValue (registry : TransformRegistry) (record : Json) (property : Property) :
    Generation (ValueType × Literal) := do
  let type ← ofExcept .schema (resolveType (some property.type))
  let value ← valueAt record property.path (.value · property.name property.path)
  return (type, ← ofExcept id (literalOf registry property type value))

/-- The literals of the properties of a record. -/
def propertyValues (registry : TransformRegistry) (record : Json) (properties : List Property) :
    Generation (List Literal) :=
  properties.mapM fun property => return (← propertyValue registry record property).2

def firstSegment (path : String) : Generation (Option String) := do
  return (← ofCache (PathCache.segments path)).head?

/-- The keys of a record that are spoken for: the names of the declared properties, and the
keys where the paths of the vertex key and of the properties start. -/
def spokenFor (mapping : VertexMapping) : Generation (List String) := do
  let names := mapping.properties.map (·.name)
  let key ← firstSegment mapping.key
  let starts ← mapping.properties.mapM fun property => firstSegment property.path
  return names ++ (key :: starts).filterMap id

/-- Whether a type may be given to a dynamic property. -/
def DynamicFields.allows (fields : DynamicFields) (type : ValueType) : Bool :=
  fields.allowedTypes.isEmpty || fields.allowedTypes.contains type.name

/-- The entries of a record that become properties without being declared, given the keys
that are spoken for. -/
def dynamicEntries (fields : DynamicFields) (taken : List String)
    (entries : List (String × Json)) : List (String × Scalar) :=
  entries.filterMap fun (key, value) => do
    let scalar ← Scalar.ofJson? value
    if taken.contains key || fields.excludedProperties.contains key then none
    else if fields.allows scalar.inferredType then some (key, scalar)
    else none

def dynamicProperties (mapping : VertexMapping) (record : Json) :
    Generation (List (String × Scalar)) := do
  match record with
  | .object entries =>
    return dynamicEntries mapping.dynamicFields (← spokenFor mapping) entries
  | _ => return []

def columnNames (properties : List Property) : List String := properties.map (·.name)

/-- The row of a record in a batch of vertices. -/
def vertexRow (registry : TransformRegistry) (mapping : VertexMapping) (record : Json) :
    Generation VertexRow := do
  let id ← vertexIdAt record mapping.key
  return ⟨id, ← propertyValues registry record mapping.properties⟩

/-- The statement of a vertex with dynamic fields, from its record. -/
def upsert (registry : TransformRegistry) (mapping : VertexMapping) (id : VertexId)
    (record : Json) : Generation DataStatement := do
  let values ← propertyValues registry record mapping.properties
  let dynamic ← dynamicProperties mapping record
  let columns := columnNames mapping.properties ++ dynamic.map (·.1)
  return .upsertVertex mapping.tag columns ⟨id, values ++ dynamic.map (.value ·.2)⟩

/-- The statement of a record with dynamic fields, unless its vertex is written already. -/
def upsert? (registry : TransformRegistry) (mapping : VertexMapping) (record : Json) :
    Generation (Option DataStatement) := do
  let id ← vertexIdAt record mapping.key
  if ← markSeen id then return some (← upsert registry mapping id record)
  else return none

/-- The statements of a vertex mapping. With dynamic fields every vertex has a statement of
its own; without them, vertices share statements in batches. -/
def vertexStatements (registry : TransformRegistry) (mapping : VertexMapping) (document : Json)
    (size : Nat) : Generation (List DataStatement) := do
  let records ← recordsAt document mapping.source
  if mapping.dynamicFields.enabled then
    return (← records.mapM (upsert? registry mapping)).filterMap id
  else
    let rows ← records.mapM (vertexRow registry mapping)
    return (batches size rows).map (.insertVertices mapping.tag (columnNames mapping.properties))

/-- The row of a record in a batch of edges. -/
def edgeRow (registry : TransformRegistry) (mapping : EdgeMapping) (record : Json) :
    Generation EdgeRow := do
  let start ← vertexIdAt record mapping.start.key
  let target ← vertexIdAt record mapping.target.key
  return ⟨start, target, ← propertyValues registry record mapping.properties⟩

def edgeStatements (registry : TransformRegistry) (mapping : EdgeMapping) (document : Json)
    (size : Nat) : Generation (List DataStatement) := do
  let records ← recordsAt document mapping.source
  let rows ← records.mapM (edgeRow registry mapping)
  return (batches size rows).map (.insertEdges mapping.name (columnNames mapping.properties))

/-- How many rows share a statement at most: a positive whole number. -/
structure BatchSize where
  size : Nat
  positive : 0 < size
  deriving DecidableEq, Repr

namespace BatchSize

/-- The size unless another is asked for. -/
def default : BatchSize := ⟨500, by decide⟩

/-- The size that a whole number stands for. -/
def ofInt (n : Int) : Except Failure BatchSize :=
  if h : 0 < n.toNat then .ok ⟨n.toNat, h⟩ else .error (.batchSize (toString n))

/-- The size that a JSON value stands for. -/
def ofJson : Json → Except Failure BatchSize
  | .integer n => ofInt n
  | value => .error (.batchSize value.nestedDisplay)

end BatchSize

/-- The vertices with dynamic fields that have been written, by their tags. -/
abbrev SeenByTag := List (String × List VertexId)

/-- The statements of vertex mappings one after the other. A vertex is known to the later
mappings of its own tag, and to no others. -/
def statementsByTag (registry : TransformRegistry) (document : Json) (size : Nat)
    (seen : SeenByTag) : List VertexMapping → Generation (List DataStatement)
  | [] => return []
  | mapping :: rest => do
    let known := (seen.lookup mapping.tag).getD []
    let (statements, known) ← apart known (vertexStatements registry mapping document size)
    let seen := insertPair seen mapping.tag known
    return statements ++ (← statementsByTag registry document size seen rest)

/-- The statements of a mapping: those of its vertices, then those of its edges. -/
def dataStatements (registry : TransformRegistry) (mapping : GraphMapping) (document : Json)
    (size : BatchSize) : Generation (List DataStatement) := do
  let vertices ← statementsByTag registry document size.size [] mapping.vertices
  let edges ← mapping.edges.mapM fun e => edgeStatements registry e document size.size
  return vertices ++ edges.flatten

/-- The statements of a mapping with a size of batches that has yet to be checked. -/
def batchedStatements (registry : TransformRegistry) (mapping : GraphMapping) (document : Json)
    (size : Json) : Generation (List DataStatement) := do
  let size ← ofExcept id (BatchSize.ofJson size)
  dataStatements registry mapping document size

end DocGraph
