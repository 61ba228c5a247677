import DocGraph.Proofs.Graph.Reached
import DocGraph.Proofs.Graph.UpsertColumns
import DocGraph.Proofs.Schema.IndexName

/-!
# What stands under a column

The statements of a run that succeeds are exactly those of the records that it has looked at. So
under the name of a declared property stand the literals that it has in these records, and nothing
else; and under any other column stand the dynamic properties of that name.

## Main definitions

* `StandsUnder`: a literal under a column of the statements for an element.
* `IsReachedWith`: the dynamic properties that are written for a record behind the declared ones.
* `HoldsFor`: what a statement holds for a record.

## Main results

* `standsUnder_property_iff`, `standsUnder_dynamic_iff`: what stands under the columns of a run.
-/

namespace DocGraph

open Generation

/-- A literal stands under a column in one of the statements for an element. -/
def StandsUnder (statements : List DataStatement) (readout : Readout) (column : String)
    (literal : Literal) : Prop :=
  ∃ statement ∈ statements, statement.kind = readout.kind ∧ statement.element = readout.name ∧
    ∃ tuple ∈ statement.tuples, (column, literal) ∈ statement.columns.zip tuple

/-- A record is looked at for an element, and there are these dynamic properties in it. -/
inductive IsReachedWith (mapping : GraphMapping) (document : Json) :
    Readout → Json → List (String × Scalar) → Prop
  | vertex {v : VertexMapping} {records : List Json} {record : Json}
      (vertex : v ∈ mapping.vertices) (static : v.dynamicFields.enabled = false)
      (found : (recordsAt document v.source).alone = .ok records) (among : record ∈ records) :
      IsReachedWith mapping document v.readout record []
  | first {v : VertexMapping} {records : List Json} {record : Json} {id : VertexId}
      (vertex : v ∈ mapping.vertices) (dynamic : v.dynamicFields.enabled = true)
      (found : (recordsAt document v.source).alone = .ok records)
      (first : records.find? (carries v id) = some record) :
      IsReachedWith mapping document v.readout record (dynamicOf v record)
  | edge {e : EdgeMapping} {records : List Json} {record : Json} (edge : e ∈ mapping.edges)
      (found : (recordsAt document e.source).alone = .ok records) (among : record ∈ records) :
      IsReachedWith mapping document e.readout record []

section

variable {registry : TransformRegistry} {mapping : GraphMapping} {document record : Json}
  {readout : Readout} {dynamic : List (String × Scalar)}

theorem isReached_iff_exists : IsReached mapping document readout record ↔
    ∃ dynamic, IsReachedWith mapping document readout record dynamic := by
  constructor
  · rintro (⟨vertex, static, found, among⟩ | ⟨vertex, dynamic, found, first⟩ |
      ⟨edge, found, among⟩)
    · exact ⟨_, .vertex vertex static found among⟩
    · exact ⟨_, .first vertex dynamic found first⟩
    · exact ⟨_, .edge edge found among⟩
  · rintro ⟨dynamic, ⟨vertex, static, found, among⟩ | ⟨vertex, dynamic, found, first⟩ |
      ⟨edge, found, among⟩⟩
    · exact .vertex vertex static found among
    · exact .first vertex dynamic found first
    · exact .edge edge found among

theorem IsReachedWith.mem_readouts (h : IsReachedWith mapping document readout record dynamic) :
    readout ∈ mapping.readouts := by
  cases h with
  | vertex vertex | first vertex => exact mem_readouts_of_vertex vertex
  | edge edge => exact mem_readouts_of_edge edge

theorem IsReached.mem_readouts (h : IsReached mapping document readout record) :
    readout ∈ mapping.readouts := by
  obtain ⟨_, reached⟩ := isReached_iff_exists.mp h
  exact reached.mem_readouts

/-- The dynamic properties of a record are entries of it that are admitted. -/
theorem exists_admitted_of_mem_dynamicOf {v : VertexMapping} {key : String} {scalar : Scalar}
    (mem : (key, scalar) ∈ dynamicOf v record) :
    ∃ value, (key, value) ∈ v.admitted record ∧ Scalar.ofJson? value = some scalar := by
  obtain ⟨⟨_, value⟩, among, rfl, single⟩ := exists_left_of_forall₂ (forall₂_dynamicOf v record) mem
  exact ⟨value, among, single⟩

/-- No dynamic property has the name of a declared one. -/
theorem IsReachedWith.undeclared (h : IsReachedWith mapping document readout record dynamic)
    {key : String} {scalar : Scalar} (mem : (key, scalar) ∈ dynamic) :
    key ∉ columnNames readout.properties := by
  cases h with
  | vertex | edge => cases mem
  | first =>
    obtain ⟨value, among, -⟩ := exists_admitted_of_mem_dynamicOf mem
    exact (admits_of_mem_admitted among).undeclared

/-! ## Tuples -/

/-- What a statement holds for a record. -/
def HoldsFor (registry : TransformRegistry) (readout : Readout) (record : Json)
    (dynamic : List (String × Scalar)) (statement : DataStatement) (tuple : List Literal) : Prop :=
  statement.kind = readout.kind ∧ statement.element = readout.name ∧
    statement.columns = columnNames readout.properties ++ dynamic.map (·.1) ∧
    ∃ literals, List.Forall₂ (HasLiteral registry record) readout.properties literals ∧
      tuple = literals ++ dynamic.map (.value ·.2)

section

variable {size : BatchSize} {session : Session} {statements : List DataStatement}
  (h : (dataStatements registry mapping document size).outcome session = .ok statements)
include h

/-- Every tuple is held for a record that is looked at. -/
theorem exists_reached_of_tuple {statement : DataStatement} (among : statement ∈ statements)
    {tuple : List Literal} (within : tuple ∈ statement.tuples) :
    ∃ readout record dynamic, IsReachedWith mapping document readout record dynamic ∧
      HoldsFor registry readout record dynamic statement tuple := by
  cases isWritten_of_mem h among with
  | vertices vertex static found each =>
    obtain ⟨row, listed, rfl⟩ := List.mem_map.mp within
    obtain ⟨record, mem, written⟩ := each row listed
    obtain ⟨-, literals⟩ := alone_vertexRow_eq_ok_iff.mp written
    exact ⟨_, record, [], .vertex vertex static found mem, rfl, rfl, (List.append_nil _).symm,
      row.values, literals, (List.append_nil _).symm⟩
  | edges edge found each =>
    obtain ⟨row, listed, rfl⟩ := List.mem_map.mp within
    obtain ⟨record, mem, written⟩ := each row listed
    obtain ⟨-, -, literals⟩ := alone_edgeRow_eq_ok_iff.mp written
    exact ⟨_, record, [], .edge edge found mem, rfl, rfl, (List.append_nil _).symm,
      row.values, literals, (List.append_nil _).symm⟩
  | upsert _ _ _ _ _ written =>
    obtain ⟨columns, tuple, rfl⟩ := alone_upsert_eq _ _ written
    obtain rfl := List.mem_singleton.mp within
    obtain ⟨v, vertex, dynamic, records, found, id, record, first, written⟩ :=
      exists_first_of_mem h among
    obtain ⟨values, literals, same⟩ := alone_upsert_eq_ok_iff.mp written
    obtain ⟨tag, rfl, row⟩ := DataStatement.upsertVertex.inj same
    obtain ⟨-, rfl⟩ := VertexRow.mk.inj row
    exact ⟨_, record, _, .first vertex dynamic found first, rfl, tag, rfl, values, literals, rfl⟩

/-- For every record that is looked at, a statement holds a tuple. -/
theorem exists_tuple_of_reached (built : mapping.IsBuilt)
    (reached : IsReachedWith mapping document readout record dynamic) :
    ∃ statement ∈ statements, ∃ tuple ∈ statement.tuples,
      HoldsFor registry readout record dynamic statement tuple := by
  obtain ⟨ofVertices, ofEdges⟩ := exists_portions_of_ok built h
  cases reached with
  | @vertex v records _ vertex static found among =>
    obtain ⟨portion, given, contained⟩ := ofVertices v vertex
    obtain ⟨rows, ofRecords, -, rfl⟩ :=
      vertexPortion_static_eq_ok registry document static (Prod.ext given rfl)
    obtain ⟨row, listed, written⟩ := exists_row_of_mem ofRecords found among
    obtain ⟨block, cut, mem⟩ := exists_batch_of_mem size listed
    obtain ⟨-, literals⟩ := alone_vertexRow_eq_ok_iff.mp written
    exact ⟨_, contained (List.mem_map_of_mem cut), _, List.mem_map_of_mem mem, rfl, rfl,
      (List.append_nil _).symm, row.values, literals, (List.append_nil _).symm⟩
  | @first v records _ id vertex dynamic found first =>
    obtain ⟨portion, given, contained⟩ := ofVertices v vertex
    obtain ⟨statement, within, written⟩ :=
      exists_upsert_of_first dynamic given found first size.size
    obtain ⟨values, literals, rfl⟩ := alone_upsert_eq_ok_iff.mp written
    exact ⟨_, contained within, _, List.mem_singleton_self _, rfl, rfl, rfl, values, literals, rfl⟩
  | @edge e records _ edge found among =>
    obtain ⟨portion, given, contained⟩ := ofEdges e edge
    obtain ⟨rows, ofRecords, rfl⟩ := map_eq_ok_iff.mp given
    obtain ⟨row, listed, written⟩ := exists_row_of_mem ofRecords found among
    obtain ⟨block, cut, mem⟩ := exists_batch_of_mem size listed
    obtain ⟨-, -, literals⟩ := alone_edgeRow_eq_ok_iff.mp written
    exact ⟨_, contained (List.mem_map_of_mem cut), _, List.mem_map_of_mem mem, rfl, rfl,
      (List.append_nil _).symm, row.values, literals, (List.append_nil _).symm⟩

end

/-! ## Columns -/

/-- Under the columns of a statement stand the literals of declared properties and behind them
dynamic properties. -/
theorem mem_zip_columns_iff {properties : List Property} {literals : List Literal}
    (length : properties.length = literals.length) {column : String} {literal : Literal} :
    (column, literal) ∈ (columnNames properties ++ dynamic.map (·.1)).zip
        (literals ++ dynamic.map (.value ·.2)) ↔
      (∃ property, (property, literal) ∈ properties.zip literals ∧ property.name = column) ∨
        ∃ scalar, (column, scalar) ∈ dynamic ∧ literal = .value scalar := by
  have names : (columnNames properties).length = literals.length := by
    rw [columnNames, List.length_map, length]
  rw [List.zip_append names, List.mem_append, columnNames, List.zip_map_left, List.zip_map',
    List.mem_map, List.mem_map]
  refine or_congr ?_ ?_
  · constructor
    · rintro ⟨⟨property, other⟩, mem, ⟨⟩⟩
      exact ⟨property, mem, rfl⟩
    · rintro ⟨property, mem, rfl⟩
      exact ⟨(property, literal), mem, rfl⟩
  · constructor
    · rintro ⟨⟨key, scalar⟩, mem, ⟨⟩⟩
      exact ⟨scalar, mem, rfl⟩
    · rintro ⟨scalar, mem, rfl⟩
      exact ⟨(column, scalar), mem, rfl⟩

/-- A property has one literal in a record. -/
theorem HasLiteral.unique {property : Property} {literal other : Literal}
    (h : HasLiteral registry record property literal)
    (h' : HasLiteral registry record property other) : literal = other := by
  obtain ⟨type, value, known, found, given⟩ := h
  obtain ⟨type', value', known', found', given'⟩ := h'
  obtain rfl := Option.some.inj (known.symm.trans known')
  obtain rfl := Except.ok.inj (found.symm.trans found')
  exact Except.ok.inj (given.symm.trans given')

/-- What stands under a column of the statements for an element is a literal of a declared property
in a record that is looked at, or a dynamic property of it. -/
theorem standsUnder_iff (built : mapping.IsBuilt) {size : BatchSize} {session : Session}
    {statements : List DataStatement}
    (h : (dataStatements registry mapping document size).outcome session = .ok statements)
    (known : readout ∈ mapping.readouts) {column : String} {literal : Literal} :
    StandsUnder statements readout column literal ↔
      ∃ record dynamic, IsReachedWith mapping document readout record dynamic ∧
        ((∃ property ∈ readout.properties, property.name = column ∧
            HasLiteral registry record property literal) ∨
          ∃ scalar, (column, scalar) ∈ dynamic ∧ literal = .value scalar) := by
  constructor
  · rintro ⟨statement, among, kind, element, tuple, within, mem⟩
    obtain ⟨readout', record, dynamic, reached, kind', element', columns, literals, each, rfl⟩ :=
      exists_reached_of_tuple h among within
    obtain rfl : readout = readout' := by
      refine List.inj_on_of_nodup_map built.nodup_readouts known reached.mem_readouts ?_
      rw [← kind, ← element, kind', element']
    refine ⟨record, dynamic, reached, ?_⟩
    rw [columns, mem_zip_columns_iff each.length_eq] at mem
    refine mem.imp_left fun ⟨property, zipped, name⟩ => ?_
    exact ⟨property, (List.of_mem_zip zipped).1, name, (List.forall₂_iff_zip.mp each).2 zipped⟩
  · rintro ⟨record, dynamic, reached, stands⟩
    obtain ⟨statement, among, tuple, within, kind, element, columns, literals, each, rfl⟩ :=
      exists_tuple_of_reached h built reached
    refine ⟨statement, among, kind, element, _, within, ?_⟩
    rw [columns, mem_zip_columns_iff each.length_eq]
    refine stands.imp_left fun ⟨property, declared, name, given⟩ => ?_
    have first : (readout.properties.zip literals).map Prod.fst = readout.properties :=
      List.map_fst_zip each.length_eq.le
    rw [← first] at declared
    obtain ⟨⟨_, other⟩, zipped, rfl⟩ := List.mem_map.mp declared
    obtain rfl := given.unique ((List.forall₂_iff_zip.mp each).2 zipped)
    exact ⟨_, zipped, name⟩

/-- Under the name of a declared property stand its literals. -/
theorem standsUnder_property_iff (built : mapping.IsBuilt) {size : BatchSize} {session : Session}
    {statements : List DataStatement}
    (h : (dataStatements registry mapping document size).outcome session = .ok statements)
    (known : readout ∈ mapping.readouts) {property : Property}
    (declared : property ∈ readout.properties) {literal : Literal} :
    StandsUnder statements readout property.name literal ↔
      ∃ record, IsReached mapping document readout record ∧
        HasLiteral registry record property literal := by
  rw [standsUnder_iff built h known]
  constructor
  · rintro ⟨record, dynamic, reached, ⟨other, declared', name, given⟩ | ⟨scalar, mem, -⟩⟩
    · obtain rfl : other = property :=
        List.inj_on_of_nodup_map (built.nodup_properties known) declared' declared name
      exact ⟨record, isReached_iff_exists.mpr ⟨dynamic, reached⟩, given⟩
    · exact absurd (List.mem_map_of_mem declared) (reached.undeclared mem)
  · rintro ⟨record, reached, given⟩
    obtain ⟨dynamic, reached⟩ := isReached_iff_exists.mp reached
    exact ⟨record, dynamic, reached, .inl ⟨property, declared, rfl, given⟩⟩

/-- Under any other column stand dynamic properties. -/
theorem standsUnder_dynamic_iff (built : mapping.IsBuilt) {size : BatchSize} {session : Session}
    {statements : List DataStatement}
    (h : (dataStatements registry mapping document size).outcome session = .ok statements)
    (known : readout ∈ mapping.readouts) {column : String}
    (undeclared : column ∉ columnNames readout.properties) {literal : Literal} :
    StandsUnder statements readout column literal ↔
      ∃ record dynamic scalar, IsReachedWith mapping document readout record dynamic ∧
        (column, scalar) ∈ dynamic ∧ literal = .value scalar := by
  rw [standsUnder_iff built h known]
  constructor
  · rintro ⟨record, dynamic, reached, ⟨property, declared, rfl, -⟩ | ⟨scalar, mem, rfl⟩⟩
    · exact absurd (List.mem_map_of_mem declared) undeclared
    · exact ⟨record, dynamic, scalar, reached, mem, rfl⟩
  · rintro ⟨record, dynamic, scalar, reached, mem, rfl⟩
    exact ⟨record, dynamic, reached, .inr ⟨scalar, mem, rfl⟩⟩

end

end DocGraph
