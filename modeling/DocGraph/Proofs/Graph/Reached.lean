import DocGraph.Proofs.Graph.FirstOccurrence
import DocGraph.Proofs.Graph.Single
import DocGraph.Proofs.Graph.Written

/-!
# Records that are reached

A run that succeeds has looked at all records of edges, and at all records of vertices without
dynamic fields. With dynamic fields it has looked at the first record with each identifier. The
properties of all records that it has looked at have literals.

## Main definitions

* `IsReached`: the records at whose properties a run looks.

## Main results

* `exists_literals_of_isReached`: after a run that succeeds, they have literals.
* `exists_failure_of_isReached`: a run fails that reaches a property without a literal.
* `exists_upsert_of_first`, `exists_first_of_mem`: vertices with dynamic fields are written from the
  first records with their identifiers.
-/

namespace DocGraph

open Generation

/-- The properties of a record are looked at for an element. -/
inductive IsReached (mapping : GraphMapping) (document : Json) : Readout → Json → Prop
  | vertex {v : VertexMapping} {records : List Json} {record : Json}
      (vertex : v ∈ mapping.vertices) (static : v.dynamicFields.enabled = false)
      (found : (recordsAt document v.source).alone = .ok records) (among : record ∈ records) :
      IsReached mapping document v.readout record
  /-- With dynamic fields, only the first record with an identifier is looked at. -/
  | first {v : VertexMapping} {records : List Json} {record : Json} {id : VertexId}
      (vertex : v ∈ mapping.vertices) (dynamic : v.dynamicFields.enabled = true)
      (found : (recordsAt document v.source).alone = .ok records)
      (first : records.find? (carries v id) = some record) :
      IsReached mapping document v.readout record
  | edge {e : EdgeMapping} {records : List Json} {record : Json} (edge : e ∈ mapping.edges)
      (found : (recordsAt document e.source).alone = .ok records) (among : record ∈ records) :
      IsReached mapping document e.readout record

variable {registry : TransformRegistry} {mapping : GraphMapping} {document record : Json}

theorem eq_of_carries {v : VertexMapping} {id : VertexId} (h : carries v id record = true) :
    (vertexIdAt record v.key).alone = .ok id := by
  rw [carries, beq_iff_eq] at h
  exact toOption_eq_some_iff.mp h

/-- What a run of a built mapping succeeds with is there for each of its elements by itself, and
its statements are among those of the run. -/
theorem exists_portions_of_ok (built : mapping.IsBuilt) {size : BatchSize} {session : Session}
    {statements : List DataStatement}
    (h : (dataStatements registry mapping document size).outcome session = .ok statements) :
    (∀ v ∈ mapping.vertices, ∃ portion, (vertexPortion registry document v []).1 = .ok portion ∧
        portion.statements size.size ⊆ statements) ∧
      ∀ e ∈ mapping.edges, ∃ portion, edgePortion registry document e = .ok portion ∧
        portion.statements size.size ⊆ statements := by
  rw [(hasEffect_dataStatements registry document mapping size).outcome_eq] at h
  obtain ⟨all, found, rfl⟩ := map_eq_ok_iff.mp h
  obtain ⟨ofVertices, ofEdges, vertices, edges, rfl⟩ := portions_eq_ok registry document found
  rw [vertexPortions_eq_mapM registry document built.nodup_tags fun _ _ => rfl] at vertices
  constructor
  · intro v vertex
    obtain ⟨portion, mem, given⟩ :=
      exists_left_of_forall₂ ((mapM_eq_ok_iff _ _ _).mp vertices).flip vertex
    refine ⟨portion, given, fun statement within => ?_⟩
    exact List.mem_flatMap.mpr ⟨portion, List.mem_append_left _ mem, within⟩
  · intro e edge
    obtain ⟨portion, mem, given⟩ :=
      exists_left_of_forall₂ ((mapM_eq_ok_iff _ _ _).mp edges).flip edge
    refine ⟨portion, given, fun statement within => ?_⟩
    exact List.mem_flatMap.mpr ⟨portion, List.mem_append_right _ mem, within⟩

/-- With dynamic fields, the statements are those of the first records with their identifiers. -/
theorem writesFirst_of_vertexPortion {v : VertexMapping} (dynamic : v.dynamicFields.enabled = true)
    {seen : List VertexId} {portion : Portion}
    (h : (vertexPortion registry document v seen).1 = .ok portion) :
    ∃ records ids statements after, (recordsAt document v.source).alone = .ok records ∧
      WritesFirst registry v seen records ids statements after ∧ portion = .upserts statements := by
  obtain ⟨records, statements, found, given, rfl⟩ :=
    vertexPortion_dynamic_eq_ok registry document dynamic (Prod.ext h rfl)
  obtain ⟨ids, first⟩ := upsertsOf_eq_ok_iff.mp given
  exact ⟨records, ids, statements, _, found, first, rfl⟩

/-- The first record with an identifier is the one that its vertex is written from. -/
theorem exists_upsert_of_first {v : VertexMapping} (dynamic : v.dynamicFields.enabled = true)
    {portion : Portion} (h : (vertexPortion registry document v []).1 = .ok portion)
    {records : List Json} (found : (recordsAt document v.source).alone = .ok records)
    {id : VertexId} (first : records.find? (carries v id) = some record) (size : Nat) :
    ∃ statement ∈ portion.statements size,
      (upsert registry v id record).alone = .ok statement := by
  obtain ⟨records', ids, statements, -, found', ⟨carried, written, -, -⟩, rfl⟩ :=
    writesFirst_of_vertexPortion dynamic h
  obtain rfl : records = records' := Except.ok.inj (found.symm.trans found')
  have new : id ∈ newIds [] ids := by
    obtain ⟨other, mem, key⟩ :=
      exists_left_of_forall₂ carried.flip (List.mem_of_find?_eq_some first)
    obtain rfl : id = other :=
      Except.ok.inj ((eq_of_carries (List.find?_some first)).symm.trans key)
    exact mem_newIds.mpr ⟨mem, List.not_mem_nil⟩
  obtain ⟨statement, mem, -, record', first', upserted⟩ := exists_left_of_forall₂ written.flip new
  obtain rfl : record = record' := Option.some.inj (first.symm.trans first')
  exact ⟨statement, mem, upserted⟩

/-- A vertex with dynamic fields is written from the first record with its identifier. -/
theorem exists_first_of_mem {size : BatchSize} {session : Session} {statements : List DataStatement}
    (h : (dataStatements registry mapping document size).outcome session = .ok statements)
    {tag : String} {columns : List String} {row : VertexRow}
    (mem : .upsertVertex tag columns row ∈ statements) :
    ∃ v ∈ mapping.vertices, v.dynamicFields.enabled = true ∧
      ∃ records, (recordsAt document v.source).alone = .ok records ∧
        ∃ id record, records.find? (carries v id) = some record ∧
          (upsert registry v id record).alone = .ok (.upsertVertex tag columns row) := by
  obtain ⟨portion, within, ⟨v, vertex, seen, given⟩ | ⟨e, -, given⟩⟩ :=
    exists_contribution_of_mem registry document h mem
  · cases dynamic : v.dynamicFields.enabled with
    | true =>
      obtain ⟨records, ids, upserts, -, found, ⟨-, written, -, -⟩, rfl⟩ :=
        writesFirst_of_vertexPortion dynamic given
      obtain ⟨id, -, -, record, first, upserted⟩ := exists_left_of_forall₂ written within
      exact ⟨v, vertex, dynamic, records, found, id, record, first, upserted⟩
    | false =>
      obtain ⟨rows, -, -, rfl⟩ :=
        vertexPortion_static_eq_ok registry document dynamic (Prod.ext given rfl)
      simp [Portion.statements] at within
  · obtain ⟨rows, -, rfl⟩ := map_eq_ok_iff.mp given
    simp [Portion.statements] at within

/-- When the rows of a source are there, every record has one. -/
theorem exists_row_of_mem {ρ : Type} {row : Json → Except Failure ρ} {source : String}
    {rows : List ρ}
    (h : ((recordsAt document source).alone >>= fun records => records.mapM row) = .ok rows)
    {records : List Json} (found : (recordsAt document source).alone = .ok records)
    (among : record ∈ records) : ∃ written ∈ rows, row record = .ok written := by
  obtain ⟨records', found', each⟩ := exists_records_of_rows document h
  obtain rfl : records = records' := Except.ok.inj (found.symm.trans found')
  exact exists_left_of_forall₂ each.flip among

/-- When a run has succeeded, the properties of every record that is reached have literals. -/
theorem exists_literals_of_isReached (built : mapping.IsBuilt) {size : BatchSize}
    {session : Session} {statements : List DataStatement}
    (h : (dataStatements registry mapping document size).outcome session = .ok statements)
    {readout : Readout} (reached : IsReached mapping document readout record) :
    ∃ literals, List.Forall₂ (HasLiteral registry record) readout.properties literals := by
  obtain ⟨ofVertices, ofEdges⟩ := exists_portions_of_ok built h
  cases reached with
  | @vertex v records _ vertex static found among =>
    obtain ⟨portion, given, -⟩ := ofVertices v vertex
    obtain ⟨rows, given, -, -⟩ :=
      vertexPortion_static_eq_ok registry document static (Prod.ext given rfl)
    obtain ⟨row, -, written⟩ := exists_row_of_mem given found among
    exact ⟨row.values, (alone_vertexRow_eq_ok_iff.mp written).2⟩
  | @first v records _ id vertex dynamic found first =>
    obtain ⟨portion, given, -⟩ := ofVertices v vertex
    obtain ⟨statement, -, written⟩ := exists_upsert_of_first dynamic given found first size.size
    obtain ⟨values, literals, -⟩ := alone_upsert_eq_ok_iff.mp written
    exact ⟨values, literals⟩
  | @edge e records _ edge found among =>
    obtain ⟨portion, given, -⟩ := ofEdges e edge
    obtain ⟨rows, given, -⟩ := map_eq_ok_iff.mp given
    obtain ⟨row, -, written⟩ := exists_row_of_mem given found among
    exact ⟨row.values, (alone_edgeRow_eq_ok_iff.mp written).2.2⟩

/-- No run succeeds that reaches a record in which a property has no literal. -/
theorem exists_failure_of_isReached (built : mapping.IsBuilt) {size : BatchSize}
    {session : Session} {readout : Readout} (reached : IsReached mapping document readout record)
    {property : Property} (declared : property ∈ readout.properties)
    (none : ∀ literal, ¬ HasLiteral registry record property literal) :
    ∃ failure, (dataStatements registry mapping document size).outcome session =
      .error failure := by
  cases h : (dataStatements registry mapping document size).outcome session with
  | error failure => exact ⟨failure, rfl⟩
  | ok statements =>
    obtain ⟨literals, given⟩ := exists_literals_of_isReached built h reached
    obtain ⟨literal, -, read⟩ := exists_left_of_forall₂ given.flip declared
    exact absurd read (none literal)

end DocGraph
