import DocGraph.Proofs.Graph.Readback
import DocGraph.Proofs.Graph.Record

/-!
# What the statements of a document are written for

Every statement of a document is written for an element of the mapping and for records under the
source of the element: a batch of rows, each from one of the records, or a single vertex.

## Main definitions

* `Readout`: what a mapping reads for an element.
* `DataStatement.kind`, `DataStatement.tuples`: further parts of a statement.
* `IsWritten`: a statement with the element and the records that it is written for.
* `Readout.Writes`: a statement, seen from what is read for its element.

## Main results

* `isWritten_of_mem`: all statements of a document are written so.
* `exists_readout_writes`: they list the declared properties of the element, and what is read for
  them from one of its records.
-/

namespace DocGraph

open Generation

/-- What a mapping reads for an element: records under a path, and in every record the keys of
vertices and the properties. -/
structure Readout where
  kind : ElementKind
  name : String
  source : String
  keys : List String
  properties : List Property
  deriving DecidableEq, Repr

def VertexMapping.readout (mapping : VertexMapping) : Readout :=
  ⟨.tag, mapping.tag, mapping.source, [mapping.key], mapping.properties⟩

def EdgeMapping.readout (mapping : EdgeMapping) : Readout :=
  ⟨.edge, mapping.name, mapping.source, [mapping.start.key, mapping.target.key],
    mapping.properties⟩

/-- What a mapping reads for its elements. -/
def GraphMapping.readouts (mapping : GraphMapping) : List Readout :=
  mapping.vertices.map VertexMapping.readout ++ mapping.edges.map EdgeMapping.readout

theorem mem_readouts_of_vertex {mapping : GraphMapping} {v : VertexMapping}
    (vertex : v ∈ mapping.vertices) : v.readout ∈ mapping.readouts :=
  List.mem_append_left _ (List.mem_map_of_mem vertex)

theorem mem_readouts_of_edge {mapping : GraphMapping} {e : EdgeMapping}
    (edge : e ∈ mapping.edges) : e.readout ∈ mapping.readouts :=
  List.mem_append_right _ (List.mem_map_of_mem edge)

namespace DataStatement

def kind : DataStatement → ElementKind
  | .insertVertices .. | .upsertVertex .. => .tag
  | .insertEdges .. => .edge

/-- The values of the properties, for every vertex or edge. -/
def tuples : DataStatement → List (List Literal)
  | .insertVertices _ _ rows => rows.map (·.values)
  | .upsertVertex _ _ row => [row.values]
  | .insertEdges _ _ rows => rows.map (·.values)

end DataStatement

/-- A statement is written for an element of a mapping and for records of a document. -/
inductive IsWritten (registry : TransformRegistry) (mapping : GraphMapping) (document : Json) :
    DataStatement → Prop
  | vertices {v : VertexMapping} {records : List Json} {rows : List VertexRow}
      (vertex : v ∈ mapping.vertices) (static : v.dynamicFields.enabled = false)
      (found : (recordsAt document v.source).alone = .ok records)
      (each : ∀ row ∈ rows, ∃ record ∈ records, (vertexRow registry v record).alone = .ok row) :
      IsWritten registry mapping document
        (.insertVertices v.tag (columnNames v.properties) rows)
  | upsert {v : VertexMapping} {records : List Json} {record : Json} {id : VertexId}
      {statement : DataStatement} (vertex : v ∈ mapping.vertices)
      (dynamic : v.dynamicFields.enabled = true)
      (found : (recordsAt document v.source).alone = .ok records) (among : record ∈ records)
      (key : (vertexIdAt record v.key).alone = .ok id)
      (written : (upsert registry v id record).alone = .ok statement) :
      IsWritten registry mapping document statement
  | edges {e : EdgeMapping} {records : List Json} {rows : List EdgeRow}
      (edge : e ∈ mapping.edges) (found : (recordsAt document e.source).alone = .ok records)
      (each : ∀ row ∈ rows, ∃ record ∈ records, (edgeRow registry e record).alone = .ok row) :
      IsWritten registry mapping document (.insertEdges e.name (columnNames e.properties) rows)

variable {registry : TransformRegistry} {mapping : GraphMapping} {document : Json}
  {size : BatchSize}

/-- The rows of a batch are among the rows that were cut into batches. -/
theorem mem_of_mem_batches {α : Type} {rows block : List α} (h : block ∈ batches size.size rows) :
    ∀ row ∈ block, row ∈ rows := by
  intro row mem
  rw [← (batches_isCut size.positive rows).flatten_eq]
  exact List.mem_flatten_of_mem h mem

/-- Every row that is cut into batches stands in one of them. -/
theorem exists_batch_of_mem (size : BatchSize) {α : Type} {rows : List α} {row : α}
    (mem : row ∈ rows) :
    ∃ block ∈ batches size.size rows, row ∈ block := by
  rw [← (batches_isCut size.positive rows).flatten_eq] at mem
  exact List.mem_flatten.mp mem

theorem isWritten_of_vertexPortion {v : VertexMapping} (vertex : v ∈ mapping.vertices)
    {seen : List VertexId} {portion : Portion}
    (h : (vertexPortion registry document v seen).1 = .ok portion) {statement : DataStatement}
    (mem : statement ∈ portion.statements size.size) :
    IsWritten registry mapping document statement := by
  cases dynamic : v.dynamicFields.enabled with
  | true =>
    obtain ⟨records, statements, found, given, rfl⟩ :=
      vertexPortion_dynamic_eq_ok registry document dynamic (Prod.ext h rfl)
    obtain ⟨record, among, id, key, written⟩ :=
      exists_record_of_upsertsOf registry v given statement mem
    exact .upsert vertex dynamic found among key written
  | false =>
    obtain ⟨rows, given, -, rfl⟩ :=
      vertexPortion_static_eq_ok registry document dynamic (Prod.ext h rfl)
    obtain ⟨records, found, each⟩ := exists_records_of_rows document given
    obtain ⟨block, cut, rfl⟩ := List.mem_map.mp mem
    refine .vertices vertex dynamic found fun row within => ?_
    exact exists_left_of_forall₂ each (mem_of_mem_batches cut row within)

theorem isWritten_of_edgePortion {e : EdgeMapping} (edge : e ∈ mapping.edges) {portion : Portion}
    (h : edgePortion registry document e = .ok portion) {statement : DataStatement}
    (mem : statement ∈ portion.statements size.size) :
    IsWritten registry mapping document statement := by
  rw [edgePortion, map_eq_ok_iff] at h
  obtain ⟨rows, given, rfl⟩ := h
  obtain ⟨records, found, each⟩ := exists_records_of_rows document given
  obtain ⟨block, cut, rfl⟩ := List.mem_map.mp mem
  refine .edges edge found fun row within => ?_
  exact exists_left_of_forall₂ each (mem_of_mem_batches cut row within)

theorem isWritten_of_mem {session : Session} {statements : List DataStatement}
    (h : (dataStatements registry mapping document size).outcome session = .ok statements)
    {statement : DataStatement} (mem : statement ∈ statements) :
    IsWritten registry mapping document statement := by
  obtain ⟨portion, within, ⟨v, vertex, seen, given⟩ | ⟨e, edge, given⟩⟩ :=
    exists_contribution_of_mem registry document h mem
  · exact isWritten_of_vertexPortion vertex given within
  · exact isWritten_of_edgePortion edge given within

/-- A statement lists the declared properties of an element. Each of its tuples holds what they
are in one of the records. Only a statement for a single vertex may list more, which are dynamic
properties. -/
def Readout.Writes (registry : TransformRegistry) (document : Json) (readout : Readout)
    (statement : DataStatement) : Prop :=
  statement.kind = readout.kind ∧ statement.element = readout.name ∧
    ∃ (dynamic : List (String × Scalar)) (records : List Json),
      (statement.IsInsert → dynamic = []) ∧
      statement.columns = columnNames readout.properties ++ dynamic.map (·.1) ∧
      (recordsAt document readout.source).alone = .ok records ∧
      ∀ tuple ∈ statement.tuples, ∃ record ∈ records, ∃ literals,
        List.Forall₂ (HasLiteral registry record) readout.properties literals ∧
        tuple = literals ++ dynamic.map (.value ·.2)

theorem exists_readout_of_isWritten {statement : DataStatement}
    (h : IsWritten registry mapping document statement) :
    ∃ readout ∈ mapping.readouts, readout.Writes registry document statement := by
  cases h with
  | @vertices v records rows vertex static found each =>
    refine ⟨v.readout, mem_readouts_of_vertex vertex, rfl, rfl, [], records,
      fun _ => rfl, (List.append_nil _).symm, found, ?_⟩
    intro tuple mem
    obtain ⟨row, within, rfl⟩ := List.mem_map.mp mem
    obtain ⟨record, among, written⟩ := each row within
    obtain ⟨-, literals⟩ := alone_vertexRow_eq_ok_iff.mp written
    exact ⟨record, among, row.values, literals, (List.append_nil _).symm⟩
  | @upsert v records record id statement vertex dynamic found among key written =>
    obtain ⟨values, literals, rfl⟩ := alone_upsert_eq_ok_iff.mp written
    refine ⟨v.readout, mem_readouts_of_vertex vertex, rfl, rfl,
      dynamicOf v record, records, False.elim, rfl, found, ?_⟩
    intro tuple mem
    obtain rfl := List.mem_singleton.mp mem
    exact ⟨record, among, values, literals, rfl⟩
  | @edges e records rows edge found each =>
    refine ⟨e.readout, mem_readouts_of_edge edge, rfl, rfl, [], records,
      fun _ => rfl, (List.append_nil _).symm, found, ?_⟩
    intro tuple mem
    obtain ⟨row, within, rfl⟩ := List.mem_map.mp mem
    obtain ⟨record, among, written⟩ := each row within
    obtain ⟨-, -, literals⟩ := alone_edgeRow_eq_ok_iff.mp written
    exact ⟨record, among, row.values, literals, (List.append_nil _).symm⟩

/-- Every statement of a document is written from what is read for one of the elements. -/
theorem exists_readout_writes {session : Session} {statements : List DataStatement}
    (h : (dataStatements registry mapping document size).outcome session = .ok statements)
    {statement : DataStatement} (mem : statement ∈ statements) :
    ∃ readout ∈ mapping.readouts, readout.Writes registry document statement :=
  exists_readout_of_isWritten (isWritten_of_mem h mem)

end DocGraph
