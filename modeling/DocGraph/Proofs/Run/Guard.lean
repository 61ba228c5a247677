import DocGraph.Proofs.Graph.Origin
import DocGraph.Proofs.Run.Phases
import DocGraph.Proofs.Schema.Declaration

/-!
# The schema guards the data

A run declares the schema of a mapping before it writes any data. What could be wrong with the
mapping itself comes to light there: types that are not known, and names that may not be
declared. After the schema, only the document and transforms can fail, and all names are written
as they are.

## Main definitions

* `AllBare`: names that are written without back-ticks.
* `SchemaStatement.names`, `Readout.names`: the names in a statement, and those for an element.

## Main results

* `schema_guards_data`: what holds for the data after a schema.
-/

namespace DocGraph

open Generation

/-! ## Names -/

/-- Names are plain identifiers, which are written without back-ticks. -/
def AllBare (names : List String) : Prop :=
  ∀ name ∈ names, isPlainIdentifier name = true ∧ writeName name = name

theorem allBare_of_allPlain {names : List String} (h : AllPlain names) : AllBare names :=
  fun name mem => ⟨h name mem, writeName_of_isPlainIdentifier (h name mem)⟩

/-- The names in a statement about a schema. -/
def SchemaStatement.names : SchemaStatement → List String
  | .create element => element.name :: element.columns.map (·.name)
  | .createIndex _ element column _ => [indexName element column, element, column]
  | .dropIndex _ element column => [indexName element column, element, column]
  | .drop _ name => [name]

/-- The names that are used for an element: its own, those of its properties, and those of indexes
on them. -/
def Readout.names (readout : Readout) : List String :=
  readout.name :: (columnNames readout.properties ++
    (columnNames readout.properties).map (indexName readout.name))

/-- The names in statements about an index. -/
theorem index_subset_names {readout : Readout} {element column : String}
    (name : readout.name = element) (among : column ∈ columnNames readout.properties) :
    [indexName element column, element, column] ⊆ readout.names := by
  subst name
  have index : indexName readout.name column ∈
      (columnNames readout.properties).map (indexName readout.name) := List.mem_map_of_mem among
  intro other mem
  simp only [List.mem_cons, List.not_mem_nil, or_false] at mem
  rcases mem with rfl | rfl | rfl
  · exact List.mem_cons_of_mem _ (List.mem_append_right _ index)
  · exact List.mem_cons_self
  · exact List.mem_cons_of_mem _ (List.mem_append_left _ among)

theorem allBare_names {readout : Readout}
    (plain : AllPlain (readout.name :: columnNames readout.properties)) :
    AllBare readout.names := by
  obtain ⟨name, properties⟩ := List.forall_mem_cons.mp plain
  refine allBare_of_allPlain (List.forall_mem_cons.mpr ⟨name, ?_⟩)
  intro other mem
  rcases List.mem_append.mp mem with property | index
  · exact properties other property
  · obtain ⟨property, declared, rfl⟩ := List.mem_map.mp index
    exact isPlainIdentifier_indexName name (properties property declared)

/-- What declares an element has the names for it. -/
theorem names_of_declares {readout : Readout} {element : Element}
    (declares : readout.Declares element) {statement : SchemaStatement}
    (h : statement = .create element ∨ statement ∈ element.indexes) :
    statement.names ⊆ readout.names := by
  have columns := declares.columnNames_eq
  rcases h with rfl | index
  · simp only [SchemaStatement.names, Readout.names, declares.name, ← columns]
    exact List.cons_subset_cons _ (List.subset_append_left _ _)
  · obtain ⟨column, indexed, rfl⟩ := List.mem_map.mp index
    have among : column.name ∈ columnNames readout.properties := by
      rw [columns]
      exact List.mem_map_of_mem (List.mem_of_mem_filter indexed)
    exact index_subset_names declares.name.symm among

theorem names_of_mem_cleanup {mapping : GraphMapping} {statement : SchemaStatement}
    (h : statement ∈ cleanupStatements mapping) :
    ∃ readout ∈ mapping.readouts, statement.names ⊆ readout.names := by
  simp only [cleanupStatements, List.mem_append, List.mem_flatMap, List.mem_map] at h
  rcases h with ((⟨v, mem, p, declared, rfl⟩ | ⟨e, mem, p, declared, rfl⟩) | ⟨v, mem, rfl⟩) |
    ⟨e, mem, rfl⟩
  · have among : p.name ∈ columnNames v.readout.properties := List.mem_map_of_mem declared
    exact ⟨v.readout, mem_readouts_of_vertex mem, index_subset_names rfl among⟩
  · have among : p.name ∈ columnNames e.readout.properties := List.mem_map_of_mem declared
    exact ⟨e.readout, mem_readouts_of_edge mem, index_subset_names rfl among⟩
  · exact ⟨v.readout, mem_readouts_of_vertex mem,
      List.cons_subset.mpr ⟨List.mem_cons_self, List.nil_subset _⟩⟩
  · exact ⟨e.readout, mem_readouts_of_edge mem,
      List.cons_subset.mpr ⟨List.mem_cons_self, List.nil_subset _⟩⟩

/-! ## The data after a schema -/

/-- A statement is about an element of the mapping. Its columns are the declared properties, and
behind them perhaps dynamic ones, for a single vertex only. The names of the element and of its
declared properties are bare. -/
def DataStatement.IsNamed (mapping : GraphMapping) (statement : DataStatement) : Prop :=
  ∃ readout ∈ mapping.readouts, ∃ dynamic : List String,
    statement.kind = readout.kind ∧ statement.element = readout.name ∧
    statement.columns = columnNames readout.properties ++ dynamic ∧
    (statement.IsInsert → dynamic = []) ∧ AllBare (readout.name :: columnNames readout.properties)

section

variable {pipeline : Pipeline} {mapping : GraphMapping} {includeIndexes : Option Bool}
  {schema : List SchemaStatement}

theorem elements_of_schema (h : pipeline.schema mapping includeIndexes = .ok schema) :
    ∃ elements, List.Forall₂ Readout.Declares mapping.readouts elements ∧
      ∀ statement ∈ schema, ∃ element ∈ elements,
        statement = .create element ∨ statement ∈ element.indexes := by
  obtain ⟨elements, declared, -, only⟩ := mem_schemaStatements (mapError_eq_ok_iff.mp h)
  refine ⟨elements, declares_of_schemaElements declared, fun statement mem => ?_⟩
  rcases only statement mem with ⟨element, among, create⟩ | ⟨element, among, index⟩
  · exact ⟨element, among, .inl create⟩
  · exact ⟨element, among, .inr index⟩

theorem declares_of_schema (h : pipeline.schema mapping includeIndexes = .ok schema)
    {readout : Readout} (mem : readout ∈ mapping.readouts) :
    ∃ element, readout.Declares element := by
  obtain ⟨elements, declares, -⟩ := elements_of_schema h
  obtain ⟨element, -, declared⟩ := exists_left_of_forall₂ declares.flip mem
  exact ⟨element, declared⟩

theorem allBare_of_schema (h : pipeline.schema mapping includeIndexes = .ok schema)
    {statement : SchemaStatement} (mem : statement ∈ cleanupStatements mapping ++ schema) :
    AllBare statement.names := by
  have within : ∃ readout ∈ mapping.readouts, statement.names ⊆ readout.names := by
    rcases List.mem_append.mp mem with cleanup | declaration
    · exact names_of_mem_cleanup cleanup
    · obtain ⟨elements, declares, only⟩ := elements_of_schema h
      obtain ⟨element, among, about⟩ := only statement declaration
      obtain ⟨readout, ofMapping, declared⟩ := exists_left_of_forall₂ declares among
      exact ⟨readout, ofMapping, names_of_declares declared about⟩
  obtain ⟨readout, ofMapping, subset⟩ := within
  obtain ⟨element, declared⟩ := declares_of_schema h ofMapping
  exact fun name mem => allBare_names declared.allPlain name (subset mem)

theorem isNamed_of_schema (h : pipeline.schema mapping includeIndexes = .ok schema)
    {registry : TransformRegistry} {document : Json} {size : BatchSize} {session : Session}
    {statements : List DataStatement}
    (written : (dataStatements registry mapping document size).outcome session = .ok statements) :
    ∀ statement ∈ statements, statement.IsNamed mapping := by
  intro statement mem
  obtain ⟨readout, ofMapping, kind, element, dynamic, records, insert, columns, -⟩ :=
    exists_readout_writes written mem
  obtain ⟨declaration, declared⟩ := declares_of_schema h ofMapping
  refine ⟨readout, ofMapping, dynamic.map (·.1), kind, element, columns, ?_,
    allBare_of_allPlain declared.allPlain⟩
  intro isInsert
  rw [insert isInsert, List.map_nil]

/-- After a schema there are no failures of types or of the mapping. -/
theorem kind_of_schema (h : pipeline.schema mapping includeIndexes = .ok schema)
    {registry : TransformRegistry} {document : Json} {size : BatchSize} {session : Session}
    {failure : Failure}
    (failed : (batchedStatements registry mapping document (.integer size.size)).outcome session =
      .error failure) : failure.kind ≠ .schema ∧ failure.kind ≠ .config := by
  rw [outcome_batchedStatements, ofJson_size] at failed
  obtain reading | ⟨readout, ofMapping, property, declared, unknown, -⟩ :=
    kind_dataStatements failed
  · constructor <;> rintro kind <;> simp [kind, readingKinds] at reading
  · obtain ⟨element, declares⟩ := declares_of_schema h ofMapping
    obtain ⟨type, known⟩ := declares.resolves property declared
    simp [known] at unknown

end

/-- Once a schema is declared, all types that the data asks for are known, a size of batches that
was accepted is accepted again, and the data fails neither for a type or a name nor for a size or
a definition. In all statements of the run, the names of elements, of declared properties and of
indexes are plain identifiers, which are written as they are. -/
theorem schema_guards_data (pipeline : Pipeline) {mapping : GraphMapping} {options : RunOptions}
    {schema : List SchemaStatement}
    (h : pipeline.schema mapping options.includeIndexes = .ok schema) :
    (∀ readout ∈ mapping.readouts, ∀ property ∈ readout.properties,
      ∃ type, resolveType (some property.type) = .ok type) ∧
    (∀ size, pipeline.config.resolveBatchSize options.batchSize = .ok size →
      BatchSize.ofJson (.integer size.size) = .ok size ∧
      ∀ document session failure,
        (batchedStatements pipeline.registry mapping document (.integer size.size)).outcome
          session = .error failure ∨
        (pipeline.run mapping document options).outcome session = .error failure →
        failure.kind ≠ .schema ∧ failure.kind ≠ .config) ∧
    ∀ document session result,
      (pipeline.run mapping document options).outcome session = .ok result →
      (∀ statement ∈ result.cleanup ++ result.schema, AllBare statement.names) ∧
        ∀ statement ∈ result.data, statement.IsNamed mapping := by
  refine ⟨?_, ?_, ?_⟩
  · intro readout ofMapping property declared
    obtain ⟨element, declares⟩ := declares_of_schema h ofMapping
    obtain ⟨type, known⟩ := declares.resolves property declared
    exact ⟨type, resolveType_eq_ok_iff.mpr known⟩
  · intro size resolved
    refine ⟨ofJson_size size, ?_⟩
    rintro document session failure (failed | failed)
    · exact kind_of_schema h failed
    · rw [pipeline.outcome_run, resolved, h] at failed
      have data := map_eq_error_iff.mp failed
      cases only : options.schemaOnly with
      | true => simp [only] at data
      | false =>
        rw [only, if_neg Bool.false_ne_true] at data
        exact kind_of_schema h data
  · intro document session result completed
    obtain ⟨size, -, declared, cleanup, written⟩ := run_eq_ok completed
    constructor
    · intro statement mem
      apply allBare_of_schema declared
      rcases List.mem_append.mp mem with mem | declaration
      · exact List.mem_append_left _ (cleanup mem)
      · exact List.mem_append_right _ declaration
    · obtain nothing | written := written
      · simp [nothing]
      · exact isNamed_of_schema declared written

theorem schema_guards_data_library :
    ∃ schema result,
      ({} : Pipeline).schema libraryMapping none = .ok schema ∧
      (({} : Pipeline).run libraryMapping libraryDocument { dropSchema := true }).outcome {} =
        .ok result ∧
      (∀ statement ∈ result.cleanup ++ result.schema, AllBare statement.names) ∧
      ∀ statement ∈ result.data, statement.IsNamed libraryMapping := by
  have completes : ((({} : Pipeline).run libraryMapping libraryDocument
      { dropSchema := true }).outcome {}).toOption.isSome := by decide +kernel
  cases completed : (({} : Pipeline).run libraryMapping libraryDocument
      { dropSchema := true }).outcome {} with
  | error failure => simp [completed, Except.toOption] at completes
  | ok result =>
    obtain ⟨size, -, declared, -⟩ := run_eq_ok completed
    obtain ⟨-, -, names⟩ := schema_guards_data {} declared
    exact ⟨result.schema, result, declared, rfl, names libraryDocument {} result completed⟩

end DocGraph
