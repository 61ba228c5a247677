import DocGraph.Proofs.Graph.Written

/-!
# Where the failures of a document come from

The statements of a document fail because the records of an element are missing, because a record
has no identifier, or because a property cannot be read from a record. Nothing else fails: neither
what is known of written vertices nor dynamic properties nor batches.

## Main definitions

* `FailureKind`, `Failure.kind`: the kinds of failures that are told apart.
* `Readout.Fails`: a failure of reading an element.

## Main results

* `exists_readout_fails`: every failure of a document is one of reading an element.
* `fails_cases`: it is a fault of the document unless an index in a path has too many digits or a
  property fails.
* `kind_dataStatements`: the kinds of failures.
-/

namespace DocGraph

open Generation

/-- The kinds of failures. -/
inductive FailureKind where
  /-- A definition, a mapping, a size of batches or a file. -/
  | config
  | data
  | transform
  | schema
  /-- The text of a document or of a mapping. -/
  | text
  /-- There is no diagnostic. -/
  | breakdown
  deriving DecidableEq, Repr

/-- The kind of a failure. -/
def Failure.kind : Failure → FailureKind
  | .definition _ | .mapping _ | .batchSize _ | .unreadableFile .. => .config
  | .path .. | .data _ => .data
  | .transform .. => .transform
  | .schema _ => .schema
  | .json .. | .yaml .. => .text
  | .breakdown _ => .breakdown

namespace Readout

variable (registry : TransformRegistry) (document : Json) (readout : Readout)

/-- A key or a property of a record fails. -/
def FailsAt (record : Json) (failure : Failure) : Prop :=
  (∃ key ∈ readout.keys, (vertexIdAt record key).alone = .error failure) ∨
    ∃ property ∈ readout.properties,
      (propertyValue registry record property).alone = .error failure

/-- The records fail to be there, or something fails in one of them. -/
def Fails (failure : Failure) : Prop :=
  (recordsAt document readout.source).alone = .error failure ∨
    ∃ records, (recordsAt document readout.source).alone = .ok records ∧
      ∃ record ∈ records, readout.FailsAt registry record failure

end Readout

variable {registry : TransformRegistry} {document : Json} {failure : Failure}

theorem failsAt_vertexRow {v : VertexMapping} {record : Json}
    (h : (vertexRow registry v record).alone = .error failure) :
    v.readout.FailsAt registry record failure := by
  simp only [alone_vertexRow, bind_eq_error_iff, map_eq_error_iff] at h
  obtain h | ⟨id, -, h⟩ := h
  · exact .inl ⟨v.key, List.mem_singleton_self _, h⟩
  · exact .inr (alone_propertyValues_eq_error h)

theorem failsAt_upsert {v : VertexMapping} {record : Json} {id : VertexId}
    (h : (upsert registry v id record).alone = .error failure) :
    v.readout.FailsAt registry record failure := by
  simp only [alone_upsert, bind_eq_error_iff, map_eq_error_iff, alone_dynamicProperties,
    reduceCtorEq, and_false, exists_false, or_false] at h
  exact .inr (alone_propertyValues_eq_error h)

theorem failsAt_edgeRow {e : EdgeMapping} {record : Json}
    (h : (edgeRow registry e record).alone = .error failure) :
    e.readout.FailsAt registry record failure := by
  simp only [alone_edgeRow, bind_eq_error_iff, map_eq_error_iff] at h
  obtain h | ⟨start, -, h | ⟨target, -, h⟩⟩ := h
  · exact .inl ⟨e.start.key, List.mem_cons_self, h⟩
  · exact .inl ⟨e.target.key, by simp [EdgeMapping.readout], h⟩
  · exact .inr (alone_propertyValues_eq_error h)

/-- Records taken one after the other fail as one of them, whatever vertices are known. -/
theorem failsAt_upsertsOf {v : VertexMapping} {records : List Json} {seen : List VertexId}
    (h : (upsertsOf registry v records seen).1 = .error failure) :
    ∃ record ∈ records, v.readout.FailsAt registry record failure := by
  induction records generalizing seen with
  | nil => cases h
  | cons record rest ih =>
    have later {known : List VertexId} (h : (upsertsOf registry v rest known).1 = .error failure) :
        ∃ other ∈ record :: rest, v.readout.FailsAt registry other failure := by
      obtain ⟨other, among, failed⟩ := ih h
      exact ⟨other, List.mem_cons_of_mem _ among, failed⟩
    -- Of a vertex that is written already only the key is read.
    obtain ⟨missing, -⟩ | ⟨id, -, ⟨-, others⟩ | ⟨-, ⟨unread, -⟩ | ⟨statement, -, others⟩⟩⟩ :=
      (upsertsOf_cons_eq_error_iff registry v).mp (Prod.ext h rfl)
    · exact ⟨record, List.mem_cons_self, .inl ⟨v.key, List.mem_singleton_self _, missing⟩⟩
    · exact later (congrArg Prod.fst others)
    · exact ⟨record, List.mem_cons_self, failsAt_upsert unread⟩
    · exact later (congrArg Prod.fst others)

/-- Rows fail because their records are missing or because one of them fails. -/
theorem fails_rows {ρ : Type} {row : Json → Except Failure ρ} (readout : Readout)
    (each : ∀ record, row record = .error failure → readout.FailsAt registry record failure)
    (h : ((recordsAt document readout.source).alone >>= fun records => records.mapM row) =
      .error failure) : readout.Fails registry document failure := by
  obtain missing | ⟨records, found, failed⟩ := bind_eq_error_iff.mp h
  · exact .inl missing
  · obtain ⟨record, among, failed⟩ := exists_error_of_mapM failed
    exact .inr ⟨records, found, record, among, each record failed⟩

theorem fails_vertexPortion {v : VertexMapping} {seen : List VertexId}
    (h : (vertexPortion registry document v seen).1 = .error failure) :
    v.readout.Fails registry document failure := by
  cases dynamic : v.dynamicFields.enabled with
  | true =>
    simp only [vertexPortion, dynamic, if_true] at h
    cases found : (recordsAt document v.source).alone with
    | error missing =>
      obtain rfl : missing = failure := by simpa [found] using h
      exact .inl found
    | ok records =>
      simp only [found, map_eq_error_iff] at h
      exact .inr ⟨records, found, failsAt_upsertsOf h⟩
  | false =>
    simp only [vertexPortion, dynamic, Bool.false_eq_true, if_false, map_eq_error_iff] at h
    exact fails_rows v.readout (fun record => failsAt_vertexRow) h

theorem fails_edgePortion {e : EdgeMapping}
    (h : edgePortion registry document e = .error failure) :
    e.readout.Fails registry document failure := by
  rw [edgePortion, map_eq_error_iff] at h
  exact fails_rows e.readout (fun record => failsAt_edgeRow) h

theorem exists_fails_vertexPortions {mappings : List VertexMapping} {known : SeenByTag}
    (h : vertexPortions registry document known mappings = .error failure) :
    ∃ v ∈ mappings, v.readout.Fails registry document failure := by
  induction mappings generalizing known with
  | nil => cases h
  | cons v rest ih =>
    simp only [vertexPortions, bind_eq_error_iff] at h
    obtain failed | ⟨portion, -, failed | ⟨_, -, ⟨⟩⟩⟩ := h
    · exact ⟨v, List.mem_cons_self, fails_vertexPortion failed⟩
    · obtain ⟨other, among, failed⟩ := ih failed
      exact ⟨other, List.mem_cons_of_mem _ among, failed⟩

/-- Every failure of a document is one of reading an element from it. -/
theorem exists_readout_fails {mapping : GraphMapping} {size : BatchSize} {session : Session}
    (h : (dataStatements registry mapping document size).outcome session = .error failure) :
    ∃ readout ∈ mapping.readouts, readout.Fails registry document failure := by
  rw [(hasEffect_dataStatements registry document mapping size).outcome_eq, map_eq_error_iff,
    portions, bind_eq_error_iff] at h
  obtain failed | ⟨vertices, -, failed⟩ := h
  · obtain ⟨v, vertex, failed⟩ := exists_fails_vertexPortions failed
    exact ⟨v.readout, mem_readouts_of_vertex vertex, failed⟩
  · obtain failed | ⟨_, -, ⟨⟩⟩ := bind_eq_error_iff.mp failed
    obtain ⟨e, edge, failed⟩ := exists_error_of_mapM failed
    exact ⟨e.readout, mem_readouts_of_edge edge, fails_edgePortion failed⟩

/-- Reading an element fails with a fault of the document, unless an index in the path of the
source, or in that of the key of a record, has too many digits, or a property fails. -/
theorem fails_cases {readout : Readout} (h : readout.Fails registry document failure) :
    (∃ fault, failure = .data fault) ∨
      (∃ excess, resolve document readout.source = .error (.longIndex excess) ∧
        failure = .breakdown (.longNumber excess)) ∨
      ∃ records, (recordsAt document readout.source).alone = .ok records ∧
        ∃ record ∈ records,
          (∃ key ∈ readout.keys, ∃ excess, resolve record key = .error (.longIndex excess) ∧
            failure = .breakdown (.longNumber excess)) ∨
          ∃ property ∈ readout.properties,
            (propertyValue registry record property).alone = .error failure := by
  obtain missing | ⟨records, found, record, among, ⟨key, own, missing⟩ | failed⟩ := h
  · obtain ⟨fault, nowhere, rfl⟩ := alone_recordsAt_eq_error missing
    obtain reported | ⟨excess, rfl, breakdown⟩ :=
      ofPath_eq_data_or_breakdown (.source · readout.source) fault
    · exact .inl ⟨_, reported⟩
    · exact .inr (.inl ⟨excess, nowhere, breakdown⟩)
  · obtain reported | ⟨excess, long, breakdown⟩ := alone_vertexIdAt_eq_error missing
    · exact .inl reported
    · exact .inr (.inr ⟨records, found, record, among, .inl ⟨key, own, excess, long, breakdown⟩⟩)
  · exact .inr (.inr ⟨records, found, record, among, .inr failed⟩)

/-! ## Kinds of failures -/

/-- The kinds of failures of reading a value. -/
def readingKinds : List FailureKind := [.data, .transform, .breakdown]

theorem kind_ofPath (toFault : PathFault → DataFault) (fault : PathFault) :
    (Failure.ofPath (fun fault => .data (toFault fault)) fault).kind ∈ readingKinds := by
  cases fault <;> simp [Failure.ofPath, Failure.kind, readingKinds]

theorem kind_ofTransform (site : Option String) (fault : TransformFault) :
    (Failure.ofTransform site fault).kind ∈ readingKinds := by
  cases fault <;> simp [Failure.ofTransform, Failure.kind, readingKinds]

theorem kind_literalOf {property : Property} {type : ValueType} {value : Json}
    (h : literalOf registry property type value = .error failure) :
    failure.kind ∈ readingKinds := by
  unfold literalOf at h
  split at h
  next => cases h
  next =>
    obtain ⟨fault, rfl⟩ | ⟨missing, rfl⟩ | ⟨_, _, fault, -, -, -, rfl⟩ :=
      transformed_eq_error (map_eq_error_iff.mp h)
    · simp [Failure.kind, readingKinds]
    · simp [Failure.kind, readingKinds]
    · exact kind_ofTransform _ fault
  next =>
    obtain ⟨fault, rfl⟩ | ⟨-, n, -, -, rfl⟩ := convertTo_eq_error (map_eq_error_iff.mp h) <;>
      simp [Failure.kind, readingKinds]

/-- Apart from the failures of reading values, a document fails only for a property whose type is
not known. -/
theorem kind_dataStatements {mapping : GraphMapping} {size : BatchSize} {session : Session}
    (h : (dataStatements registry mapping document size).outcome session = .error failure) :
    failure.kind ∈ readingKinds ∨
      ∃ readout ∈ mapping.readouts, ∃ property ∈ readout.properties,
        ValueType.resolve? property.type = none ∧
          failure = .schema (.unsupportedType (some property.type)) := by
  obtain ⟨readout, element, failed⟩ := exists_readout_fails h
  obtain ⟨fault, rfl⟩ | ⟨excess, -, rfl⟩ | ⟨records, -, record, -, ⟨key, -, excess, -, rfl⟩ |
    ⟨property, declared, failed⟩⟩ := fails_cases failed
  · exact .inl (by simp [Failure.kind, readingKinds])
  · exact .inl (by simp [Failure.kind, readingKinds])
  · exact .inl (by simp [Failure.kind, readingKinds])
  · obtain ⟨unknown, rfl⟩ | ⟨type, -, ⟨fault, -, rfl⟩ | ⟨value, -, unread⟩⟩ :=
      alone_propertyValue_eq_error failed
    · exact .inr ⟨readout, element, property, declared, unknown, rfl⟩
    · exact .inl (kind_ofPath _ fault)
    · exact .inl (kind_literalOf unread)

end DocGraph
