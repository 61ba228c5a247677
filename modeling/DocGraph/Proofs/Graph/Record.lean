import DocGraph.Proofs.Graph.Upsert

/-!
# What a record gives

Taken by themselves, the steps on a record are results that depend on the record alone: what its
paths lead to, and what becomes of the values found there. This says for each of them when it
succeeds, with what, and how it fails.

## Main definitions

* `HasLiteral`: the literal of a property in a record.

## Main results

* `alone_vertexRow_eq_ok_iff`, `alone_edgeRow_eq_ok_iff`, `alone_upsert_eq_ok_iff`: what is written
  for a record.
* `alone_propertyValue_eq_error`: how a property fails.
-/

namespace DocGraph

open Generation

/-- A path fails with a fault of the document, unless an index in it has too many digits. -/
theorem ofPath_eq_data_or_breakdown (toFault : PathFault → DataFault) (fault : PathFault) :
    Failure.ofPath (fun fault => .data (toFault fault)) fault = .data (toFault fault) ∨
      ∃ excess, fault = .longIndex excess ∧
        Failure.ofPath (fun fault => .data (toFault fault)) fault =
          .breakdown (.longNumber excess) := by
  cases fault with
  | longIndex excess => exact .inr ⟨excess, rfl, rfl⟩
  | _ => exact .inl rfl

theorem alone_valueAt (document : Json) (path : String) (toFault : PathFault → DataFault) :
    (valueAt document path toFault).alone =
      (resolve document path).mapError (.ofPath fun fault => .data (toFault fault)) := by
  have found := HasEffect.ofCache (PathCache.resolve_run document path)
  rw [valueAt, alone_bind found.independent fun _ => .ofExcept _ _, found.alone_eq]
  exact (HasEffect.ofExcept _ _).alone_eq

/-- Records are missing only if their path leads nowhere. -/
theorem alone_recordsAt_eq_error {document : Json} {path : String} {failure : Failure}
    (h : (recordsAt document path).alone = .error failure) :
    ∃ fault, resolve document path = .error fault ∧
      failure = .ofPath (fun fault => .data (.source fault path)) fault := by
  rw [recordsAt, alone_bind (independent_valueAt _ _ _) fun value => by
    cases value <;> exact .pure _] at h
  rcases bind_eq_error_iff.mp h with h | ⟨value, -, h⟩
  · rw [alone_valueAt, mapError_eq_error_iff] at h
    obtain ⟨fault, nowhere, rfl⟩ := h
    exact ⟨fault, nowhere, rfl⟩
  · cases value <;> cases h

theorem alone_vertexIdAt (record : Json) (path : String) :
    (vertexIdAt record path).alone =
      (resolve record path).mapError (.ofPath fun fault => .data (.key fault path)) >>= fun key =>
        (vertexIdOf key path).mapError .data := by
  rw [vertexIdAt, alone_bind (independent_valueAt _ _ _) fun _ => .ofExcept _ _, alone_valueAt]
  exact bind_congr fun key => (HasEffect.ofExcept _ _).alone_eq

/-- A record without an identifier is a fault of the document, unless an index in the path of the
key has too many digits. -/
theorem alone_vertexIdAt_eq_error {record : Json} {path : String} {failure : Failure}
    (h : (vertexIdAt record path).alone = .error failure) :
    (∃ fault, failure = .data fault) ∨
      ∃ excess, resolve record path = .error (.longIndex excess) ∧
        failure = .breakdown (.longNumber excess) := by
  rw [alone_vertexIdAt, bind_eq_error_iff] at h
  obtain h | ⟨key, -, h⟩ := h
  · obtain ⟨fault, nowhere, rfl⟩ := mapError_eq_error_iff.mp h
    obtain reported | ⟨excess, rfl, breakdown⟩ :=
      ofPath_eq_data_or_breakdown (.key · path) fault
    · exact .inl ⟨_, reported⟩
    · exact .inr ⟨excess, nowhere, breakdown⟩
  · obtain ⟨fault, -, rfl⟩ := mapError_eq_error_iff.mp h
    exact .inl ⟨fault, rfl⟩

/-! ## Values -/

theorem doubleOfInteger_eq_error_iff {n : Int} {failure : Failure} :
    doubleOfInteger n = .error failure ↔
      Binary64.ofInt? n = none ∧ .breakdown .oversizedNumber = failure := by
  rw [doubleOfInteger]
  cases Binary64.ofInt? n <;> simp

theorem readAs_eq_error {type : ValueType} {scalar : Scalar} {failure : Failure} :
    readAs type scalar = some (.error failure) →
      type = .double ∧ ∃ n, scalar = .integer n ∧ Binary64.ofInt? n = none ∧
        .breakdown .oversizedNumber = failure := by
  fun_cases readAs type scalar
  case case5 n _ =>
    intro failed
    obtain ⟨tooLarge, breakdown⟩ := doubleOfInteger_eq_error_iff.mp (Option.some.inj failed)
    exact ⟨rfl, n, rfl, tooLarge, breakdown⟩
  case case2 => simp
  all_goals exact fun failed => nomatch failed

/-- A value that cannot be read as a type is a fault of the document, with one exception. -/
theorem convertTo_eq_error {type : ValueType} {value : Json} {path : String} {failure : Failure}
    (h : convertTo type value path = .error failure) :
    (∃ fault, failure = .data fault) ∨
      type = .double ∧ ∃ n, value = .integer n ∧ Binary64.ofInt? n = none ∧
        failure = .breakdown .oversizedNumber := by
  unfold convertTo at h
  split at h
  next => exact .inl ⟨_, (Except.error.inj h).symm⟩
  next read _ found =>
    subst h
    obtain ⟨scalar, single, failed⟩ := Option.bind_eq_some_iff.mp found
    obtain ⟨double, n, rfl, tooLarge, rfl⟩ := readAs_eq_error failed
    obtain rfl : value = .integer n := by cases value <;> simp_all [Scalar.ofJson?]
    exact .inr ⟨double, n, rfl, tooLarge, rfl⟩
  next => exact .inl ⟨_, (Except.error.inj h).symm⟩

/-- A value is not transformed if it is not a single one or if the transform is not there. Else
it becomes what the transform gives. -/
theorem transformed_cases (registry : TransformRegistry) (transform : PropertyTransform)
    (value : Json) (path : String) :
    (∃ fault, transformed registry transform value path = .error (.data fault)) ∨
      (∃ missing, transformed registry transform value path =
        .error (.transform (.notFound missing) (some path))) ∨
      ∃ name function, transform.registryName? = some name ∧
        registry.find? name = some function ∧
        transformed registry transform value path = ((function value transform.params).mapError
          (.ofTransform (some path))).map (·.value) := by
  unfold transformed
  split
  next => exact .inl ⟨_, rfl⟩
  next =>
    cases named : transform.registryName? with
    | none => exact .inr (.inl ⟨_, rfl⟩)
    | some name =>
      cases found : registry.find? name with
      | none =>
        refine .inr (.inl ⟨name, ?_⟩)
        simp only [TransformRegistry.apply, found]
        rfl
      | some function =>
        refine .inr (.inr ⟨name, function, rfl, found, ?_⟩)
        simp only [TransformRegistry.apply, found]
        cases function value transform.params <;> rfl

theorem transformed_eq_error {registry : TransformRegistry} {transform : PropertyTransform}
    {value : Json} {path : String} {failure : Failure}
    (h : transformed registry transform value path = .error failure) :
    (∃ fault, failure = .data fault) ∨
      (∃ missing, failure = .transform (.notFound missing) (some path)) ∨
      ∃ name function fault, transform.registryName? = some name ∧
        registry.find? name = some function ∧
        function value transform.params = .error fault ∧
        failure = .ofTransform (some path) fault := by
  obtain ⟨fault, failed⟩ | ⟨missing, failed⟩ | ⟨name, function, named, found, given⟩ :=
    transformed_cases registry transform value path
  · exact .inl ⟨fault, Except.error.inj (h.symm.trans failed)⟩
  · exact .inr (.inl ⟨missing, Except.error.inj (h.symm.trans failed)⟩)
  · rw [given, map_eq_error_iff, mapError_eq_error_iff] at h
    obtain ⟨fault, failed, rfl⟩ := h
    exact .inr (.inr ⟨name, function, fault, named, found, failed, rfl⟩)

theorem transformed_eq_ok {registry : TransformRegistry} {transform : PropertyTransform}
    {value : Json} {path : String} {scalar : Scalar}
    (h : transformed registry transform value path = .ok scalar) :
    ∃ name function result, transform.registryName? = some name ∧
      registry.find? name = some function ∧ function value transform.params = .ok result ∧
      result.value = scalar := by
  obtain ⟨fault, failed⟩ | ⟨missing, failed⟩ | ⟨name, function, named, found, given⟩ :=
    transformed_cases registry transform value path
  · simp [failed] at h
  · simp [failed] at h
  · rw [given, map_eq_ok_iff] at h
    obtain ⟨result, applied, rfl⟩ := h
    exact ⟨name, function, result, named, found, mapError_eq_ok_iff.mp applied, rfl⟩

/-! ## Properties -/

section

variable {registry : TransformRegistry} {record : Json} {property : Property}

theorem alone_propertyValue :
    (propertyValue registry record property).alone =
      (resolveType (some property.type)).mapError .schema >>= fun type =>
        (resolve record property.path).mapError
            (.ofPath fun fault => .data (.value fault property.name property.path)) >>= fun value =>
          (literalOf registry property type value).map fun literal => (type, literal) := by
  rw [propertyValue, alone_bind (.ofExcept _ _) fun _ => .bind (independent_valueAt _ _ _) fun _ =>
    .bind (.ofExcept _ _) fun _ => .pure _, (HasEffect.ofExcept _ _).alone_eq]
  refine bind_congr fun type => ?_
  rw [alone_bind (independent_valueAt _ _ _) fun _ => .bind (.ofExcept _ _) fun _ => .pure _,
    alone_valueAt]
  refine bind_congr fun value => ?_
  rw [(Independent.hasEffect_map (HasEffect.ofExcept _ _) _).alone_eq]
  cases literalOf registry property type value <;> rfl

theorem resolveType_eq_ok_iff {declared : String} {type : ValueType} :
    resolveType (some declared) = .ok type ↔ ValueType.resolve? declared = some type := by
  simp only [resolveType, Option.getD_some]
  cases ValueType.resolve? declared <;> simp

theorem resolveType_eq_error_iff {declared : String} {fault : SchemaFault} :
    resolveType (some declared) = .error fault ↔
      ValueType.resolve? declared = none ∧ .unsupportedType (some declared) = fault := by
  simp only [resolveType, Option.getD_some]
  cases ValueType.resolve? declared <;> simp

/-- A property has a literal in a record: its type is known, its path leads to a value, and the
value can be read as the property asks. -/
def HasLiteral (registry : TransformRegistry) (record : Json) (property : Property)
    (literal : Literal) : Prop :=
  ∃ type value, ValueType.resolve? property.type = some type ∧
    resolve record property.path = .ok value ∧
    literalOf registry property type value = .ok literal

theorem alone_propertyValue_eq_ok_iff {type : ValueType} {literal : Literal} :
    (propertyValue registry record property).alone = .ok (type, literal) ↔
      ValueType.resolve? property.type = some type ∧
        ∃ value, resolve record property.path = .ok value ∧
          literalOf registry property type value = .ok literal := by
  simp only [alone_propertyValue, bind_eq_ok_iff, map_eq_ok_iff, mapError_eq_ok_iff,
    resolveType_eq_ok_iff, Prod.mk.injEq]
  constructor
  · rintro ⟨type, known, value, found, literal, read, rfl, rfl⟩
    exact ⟨known, value, found, read⟩
  · rintro ⟨known, value, found, read⟩
    exact ⟨type, known, value, found, literal, read, rfl, rfl⟩

/-- A property fails because its type is not known, because its path leads nowhere, or because
its value cannot be read. -/
theorem alone_propertyValue_eq_error {failure : Failure}
    (h : (propertyValue registry record property).alone = .error failure) :
    (ValueType.resolve? property.type = none ∧
        failure = .schema (.unsupportedType (some property.type))) ∨
      ∃ type, ValueType.resolve? property.type = some type ∧
        ((∃ fault, resolve record property.path = .error fault ∧
            failure =
              .ofPath (fun fault => .data (.value fault property.name property.path)) fault) ∨
          ∃ value, resolve record property.path = .ok value ∧
            literalOf registry property type value = .error failure) := by
  simp only [alone_propertyValue, bind_eq_error_iff, map_eq_error_iff, mapError_eq_error_iff,
    mapError_eq_ok_iff, resolveType_eq_ok_iff, resolveType_eq_error_iff] at h
  rcases h with ⟨_, ⟨unknown, rfl⟩, rfl⟩ | ⟨type, known, ⟨fault, nowhere, rfl⟩ | unread⟩
  · exact .inl ⟨unknown, rfl⟩
  · exact .inr ⟨type, known, .inl ⟨fault, nowhere, rfl⟩⟩
  · exact .inr ⟨type, known, .inr unread⟩

theorem alone_propertyValues (properties : List Property) :
    (propertyValues registry record properties).alone =
      properties.mapM fun property =>
        (propertyValue registry record property).alone.map Prod.snd := by
  have each (property : Property) := Independent.hasEffect_map
    (independent_propertyValue registry record property) Prod.snd
  rw [propertyValues, (Independent.hasEffect_mapM (fun property => (each property).independent)
    properties).alone_eq]
  simp only [(each _).alone_eq]

theorem alone_propertyValues_eq_ok_iff {properties : List Property} {literals : List Literal} :
    (propertyValues registry record properties).alone = .ok literals ↔
      List.Forall₂ (HasLiteral registry record) properties literals := by
  rw [alone_propertyValues, mapM_eq_ok_iff]
  refine iff_of_eq (congrArg (List.Forall₂ · properties literals) ?_)
  funext property literal
  rw [map_eq_ok_iff, Prod.exists]
  simp only [alone_propertyValue_eq_ok_iff, exists_eq_right, HasLiteral, exists_and_left]

theorem alone_propertyValues_eq_error {properties : List Property} {failure : Failure}
    (h : (propertyValues registry record properties).alone = .error failure) :
    ∃ property ∈ properties, (propertyValue registry record property).alone = .error failure := by
  rw [alone_propertyValues] at h
  obtain ⟨property, among, failed⟩ := exists_error_of_mapM h
  exact ⟨property, among, map_eq_error_iff.mp failed⟩

end

/-! ## Dynamic properties -/

theorem alone_firstSegment (path : String) :
    (firstSegment path).alone = .ok (splitPath path).head? :=
  (Independent.hasEffect_map (HasEffect.ofCache (PathCache.segments_run path)) List.head?).alone_eq

/-- The keys of a record that are spoken for. -/
def spokenKeys (mapping : VertexMapping) : List String :=
  columnNames mapping.properties ++
    ((splitPath mapping.key).head? ::
      mapping.properties.map fun property => (splitPath property.path).head?).filterMap id

theorem alone_spokenFor (mapping : VertexMapping) :
    (spokenFor mapping).alone = .ok (spokenKeys mapping) := by
  have starts := Independent.hasEffect_mapM
    (fun property : Property => independent_firstSegment property.path) mapping.properties
  have found : (mapping.properties.mapM fun property => (firstSegment property.path).alone) =
      .ok (mapping.properties.map fun property => (splitPath property.path).head?) := by
    rw [mapM_eq_ok_iff, List.forall₂_map_right_iff]
    exact List.forall₂_same.mpr fun property _ => alone_firstSegment property.path
  rw [spokenFor, alone_bind (independent_firstSegment _) fun _ =>
    .bind starts.independent fun _ => .pure _, alone_firstSegment]
  refine (Independent.hasEffect_map starts _).alone_eq.trans ?_
  rw [found]
  rfl

/-- The dynamic properties of a record, which are none unless it is an object. -/
def dynamicOf (mapping : VertexMapping) (record : Json) : List (String × Scalar) :=
  match record with
  | .object entries => dynamicEntries mapping.dynamicFields (spokenKeys mapping) entries
  | _ => []

theorem alone_dynamicProperties (mapping : VertexMapping) (record : Json) :
    (dynamicProperties mapping record).alone = .ok (dynamicOf mapping record) := by
  cases record with
  | object entries =>
    refine (Independent.hasEffect_map (independent_spokenFor mapping) fun taken =>
      dynamicEntries mapping.dynamicFields taken entries).alone_eq.trans ?_
    rw [alone_spokenFor]
    rfl
  | _ => rfl

/-! ## Rows and statements -/

section

variable {registry : TransformRegistry} {record : Json}

theorem alone_vertexRow (mapping : VertexMapping) :
    (vertexRow registry mapping record).alone =
      (vertexIdAt record mapping.key).alone >>= fun id =>
        (propertyValues registry record mapping.properties).alone.map fun values =>
          ⟨id, values⟩ := by
  rw [vertexRow, alone_bind (independent_vertexIdAt _ _) fun _ =>
    .bind (independent_propertyValues _ _ _) fun _ => .pure _]
  exact bind_congr fun id =>
    (Independent.hasEffect_map (independent_propertyValues _ _ _) _).alone_eq

theorem alone_vertexRow_eq_ok_iff {mapping : VertexMapping} {row : VertexRow} :
    (vertexRow registry mapping record).alone = .ok row ↔
      (vertexIdAt record mapping.key).alone = .ok row.id ∧
        List.Forall₂ (HasLiteral registry record) mapping.properties row.values := by
  simp only [alone_vertexRow, bind_eq_ok_iff, map_eq_ok_iff, alone_propertyValues_eq_ok_iff]
  constructor
  · rintro ⟨id, key, values, literals, rfl⟩
    exact ⟨key, literals⟩
  · rintro ⟨key, literals⟩
    exact ⟨row.id, key, row.values, literals, rfl⟩

theorem alone_upsert_eq_ok_iff {mapping : VertexMapping} {id : VertexId}
    {statement : DataStatement} :
    (upsert registry mapping id record).alone = .ok statement ↔
      ∃ values, List.Forall₂ (HasLiteral registry record) mapping.properties values ∧
        statement = .upsertVertex mapping.tag
          (columnNames mapping.properties ++ (dynamicOf mapping record).map (·.1))
          ⟨id, values ++ (dynamicOf mapping record).map (.value ·.2)⟩ := by
  simp only [alone_upsert, alone_dynamicProperties, bind_eq_ok_iff, map_eq_ok_iff,
    alone_propertyValues_eq_ok_iff, Except.ok.injEq, exists_eq_left']
  exact exists_congr fun values => and_congr_right fun _ => eq_comm

theorem alone_edgeRow (mapping : EdgeMapping) :
    (edgeRow registry mapping record).alone =
      (vertexIdAt record mapping.start.key).alone >>= fun start =>
        (vertexIdAt record mapping.target.key).alone >>= fun target =>
          (propertyValues registry record mapping.properties).alone.map fun values =>
            ⟨start, target, values⟩ := by
  rw [edgeRow, alone_bind (independent_vertexIdAt _ _) fun _ =>
    .bind (independent_vertexIdAt _ _) fun _ => .bind (independent_propertyValues _ _ _)
      fun _ => .pure _]
  refine bind_congr fun start => ?_
  rw [alone_bind (independent_vertexIdAt _ _) fun _ =>
    .bind (independent_propertyValues _ _ _) fun _ => .pure _]
  exact bind_congr fun target =>
    (Independent.hasEffect_map (independent_propertyValues _ _ _) _).alone_eq

theorem alone_edgeRow_eq_ok_iff {mapping : EdgeMapping} {row : EdgeRow} :
    (edgeRow registry mapping record).alone = .ok row ↔
      (vertexIdAt record mapping.start.key).alone = .ok row.start ∧
        (vertexIdAt record mapping.target.key).alone = .ok row.target ∧
          List.Forall₂ (HasLiteral registry record) mapping.properties row.values := by
  simp only [alone_edgeRow, bind_eq_ok_iff, map_eq_ok_iff, alone_propertyValues_eq_ok_iff]
  constructor
  · rintro ⟨start, key, target, key', values, literals, rfl⟩
    exact ⟨key, key', literals⟩
  · rintro ⟨key, key', literals⟩
    exact ⟨row.start, key, row.target, key', row.values, literals, rfl⟩

end

end DocGraph
