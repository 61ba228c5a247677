import DocGraph.Proofs.Graph.Alike
import DocGraph.Proofs.Graph.Portion
import DocGraph.Proofs.Json.Keyed
import DocGraph.Proofs.Schema.Declaration
import DocGraph.Run.Load

/-!
# The columns of an upsert

A vertex with dynamic fields is written with the declared properties, and behind them with those
entries of its record that are scalars of an allowed type, are not excluded, and have a key that is
not spoken for: it is not a declared name, and no declared path starts there. The declared part is
what a batch would have for the record. No two columns have the same name, since the declared names
differ from each other and the keys of a record do.

## Main definitions

* `Json.dynamicType?`: the type that a value has as a dynamic property.
* `VertexMapping.Admits`, `VertexMapping.admitted`: the entries of a record that become dynamic
  properties.
* `VertexMapping.closed`: a mapping without dynamic fields.

## Main results

* `forall₂_dynamicOf`: the dynamic properties of a record are its admitted entries.
* `columns_of_upsert`: the statement of a record, column by column.
-/

namespace DocGraph

open Generation

/-! ## Admitted entries -/

/-- The type that a value has as a dynamic property, if it can be one. -/
def Json.dynamicType? : Json → Option ValueType
  | .bool _ => some .bool
  | .integer _ => some .int64
  | .float _ => some .double
  | .string _ => some .string
  | .null | .array _ | .object _ => none

theorem dynamicType?_eq (value : Json) :
    value.dynamicType? = (Scalar.ofJson? value).map Scalar.inferredType := by
  cases value <;> rfl

namespace VertexMapping

/-- An entry of a record becomes a dynamic property. -/
structure Admits (v : VertexMapping) (key : String) (value : Json) : Prop where
  undeclared : key ∉ columnNames v.properties
  /-- The path of the key does not start there. -/
  notKey : (splitPath v.key).head? ≠ some key
  notPath : ∀ property ∈ v.properties, (splitPath property.path).head? ≠ some key
  notExcluded : key ∉ v.dynamicFields.excludedProperties
  /-- A set without types allows all of them. -/
  allowed : ∃ type, value.dynamicType? = some type ∧
    (v.dynamicFields.allowedTypes = [] ∨ type.name ∈ v.dynamicFields.allowedTypes)

theorem mem_spokenKeys_iff {v : VertexMapping} {key : String} :
    key ∈ spokenKeys v ↔ key ∈ columnNames v.properties ∨ (splitPath v.key).head? = some key ∨
      ∃ property ∈ v.properties, (splitPath property.path).head? = some key := by
  simp only [spokenKeys, List.mem_append, List.mem_filterMap, List.mem_cons, List.mem_map, id]
  refine or_congr_right ⟨?_, ?_⟩
  · rintro ⟨_, rfl | ⟨property, declared, rfl⟩, starts⟩
    · exact .inl starts
    · exact .inr ⟨property, declared, starts⟩
  · rintro (starts | ⟨property, declared, starts⟩)
    · exact ⟨_, .inl rfl, starts⟩
    · exact ⟨_, .inr ⟨property, declared, rfl⟩, starts⟩

theorem allows_iff {fields : DynamicFields} {type : ValueType} :
    fields.allows type = true ↔ fields.allowedTypes = [] ∨ type.name ∈ fields.allowedTypes := by
  simp [DynamicFields.allows]

theorem admits_iff {v : VertexMapping} {key : String} {value : Json} :
    v.Admits key value ↔ key ∉ spokenKeys v ∧ key ∉ v.dynamicFields.excludedProperties ∧
      ∃ scalar, Scalar.ofJson? value = some scalar ∧
        v.dynamicFields.allows scalar.inferredType = true := by
  have typed : (∃ type, value.dynamicType? = some type ∧
        (v.dynamicFields.allowedTypes = [] ∨ type.name ∈ v.dynamicFields.allowedTypes)) ↔
      ∃ scalar, Scalar.ofJson? value = some scalar ∧
        v.dynamicFields.allows scalar.inferredType = true := by
    simp [dynamicType?_eq, allows_iff]
  rw [← typed, mem_spokenKeys_iff]
  constructor
  · rintro ⟨undeclared, notKey, notPath, notExcluded, allowed⟩
    refine ⟨?_, notExcluded, allowed⟩
    rintro (declared | starts | ⟨property, among, starts⟩)
    · exact undeclared declared
    · exact notKey starts
    · exact notPath property among starts
  · rintro ⟨free, notExcluded, allowed⟩
    exact ⟨fun declared => free (.inl declared), fun starts => free (.inr (.inl starts)),
      fun property among starts => free (.inr (.inr ⟨property, among, starts⟩)), notExcluded,
      allowed⟩

instance (v : VertexMapping) (key : String) (value : Json) : Decidable (v.Admits key value) :=
  decidable_of_iff (key ∉ spokenKeys v ∧ key ∉ v.dynamicFields.excludedProperties ∧
    (Scalar.ofJson? value).any (v.dynamicFields.allows ·.inferredType) = true) <| by
      rw [admits_iff, Option.any_eq_true]

/-- The entries of a record that become dynamic properties, in its order. What is not an object has
none. -/
def admitted (v : VertexMapping) : Json → List (String × Json)
  | .object fields => fields.filter fun field => v.Admits field.1 field.2
  | _ => []

/-- A mapping that takes no dynamic fields. -/
def closed (v : VertexMapping) : VertexMapping :=
  { v with dynamicFields := { v.dynamicFields with enabled := false } }

end VertexMapping

theorem dynamicEntries_cons_of_admits {v : VertexMapping} {key : String} {value : Json}
    (h : v.Admits key value) (rest : List (String × Json)) :
    ∃ scalar, Scalar.ofJson? value = some scalar ∧
      dynamicEntries v.dynamicFields (spokenKeys v) ((key, value) :: rest) =
        (key, scalar) :: dynamicEntries v.dynamicFields (spokenKeys v) rest := by
  obtain ⟨free, kept, scalar, single, allowed⟩ := VertexMapping.admits_iff.mp h
  exact ⟨scalar, single, by simp [dynamicEntries, single, free, kept, allowed]⟩

theorem dynamicEntries_cons_of_not_admits {v : VertexMapping} {key : String} {value : Json}
    (h : ¬ v.Admits key value) (rest : List (String × Json)) :
    dynamicEntries v.dynamicFields (spokenKeys v) ((key, value) :: rest) =
      dynamicEntries v.dynamicFields (spokenKeys v) rest := by
  rw [VertexMapping.admits_iff] at h
  cases single : Scalar.ofJson? value with
  | none => simp [dynamicEntries, single]
  | some scalar =>
    by_cases taken : key ∈ spokenKeys v ∨ key ∈ v.dynamicFields.excludedProperties
    · simp [dynamicEntries, single, taken]
    · obtain ⟨free, kept⟩ := not_or.mp taken
      have refused : ¬ v.dynamicFields.allows scalar.inferredType = true := fun allowed =>
        h ⟨free, kept, scalar, single, allowed⟩
      simp [dynamicEntries, single, free, kept, refused]

/-- The dynamic properties of a record are its admitted entries, each with its own value. -/
theorem forall₂_dynamicOf (v : VertexMapping) (record : Json) :
    List.Forall₂ (fun (field : String × Json) (pair : String × Scalar) =>
      field.1 = pair.1 ∧ Scalar.ofJson? field.2 = some pair.2) (v.admitted record)
      (dynamicOf v record) := by
  cases record with
  | object fields =>
    rw [VertexMapping.admitted, dynamicOf]
    induction fields with
    | nil => exact .nil
    | cons field rest ih =>
      obtain ⟨key, value⟩ := field
      by_cases h : v.Admits key value
      · obtain ⟨scalar, single, entries⟩ := dynamicEntries_cons_of_admits h rest
        rw [List.filter_cons_of_pos (by simpa using h), entries]
        exact .cons ⟨rfl, single⟩ ih
      · rw [List.filter_cons_of_neg (by simpa using h), dynamicEntries_cons_of_not_admits h]
        exact ih
  | _ => exact .nil

/-! ## Columns -/

section

variable {v : VertexMapping} {record : Json}

theorem admits_of_mem_admitted {field : String × Json} (mem : field ∈ v.admitted record) :
    v.Admits field.1 field.2 := by
  cases record with
  | object fields => simpa using (List.mem_filter.mp mem).2
  | _ => cases mem

theorem nodup_admitted (keyed : record.IsKeyed) : ((v.admitted record).map Prod.fst).Nodup := by
  cases record with
  | object fields => exact (List.filter_sublist.map Prod.fst).nodup keyed.fields.1
  | _ => exact List.nodup_nil

/-- Declared names differ, keys of a record do, and no admitted key is a declared name. -/
theorem nodup_columns (declared : (columnNames v.properties).Nodup) (keyed : record.IsKeyed) :
    (columnNames v.properties ++ (v.admitted record).map Prod.fst).Nodup := by
  refine declared.append (nodup_admitted keyed) fun name ofProperty ofEntry => ?_
  obtain ⟨field, mem, rfl⟩ := List.mem_map.mp ofEntry
  exact (admits_of_mem_admitted mem).undeclared ofProperty

/-- What a record that is not passed over gives is its upsert. -/
theorem exists_upsert_of_upsert? {registry : TransformRegistry} {session : Session}
    {statement : DataStatement}
    (h : (upsert? registry v record).outcome session = .ok (some statement)) :
    ∃ id, (vertexIdAt record v.key).alone = .ok id ∧ id ∉ session.seen ∧
      (upsert registry v id record).alone = .ok statement := by
  rw [(hasEffect_upsert? registry v record).outcome_eq] at h
  cases key : (vertexIdAt record v.key).alone with
  | error failure => simp [key] at h
  | ok id =>
    by_cases known : id ∈ session.seen
    · simp [key, known] at h
    · simp only [key, known, if_false, map_eq_ok_iff] at h
      obtain ⟨given, written, same⟩ := h
      cases same
      exact ⟨id, rfl, known, written⟩

/-- Records of a document that is read from a text have different keys. -/
theorem isKeyed_of_mem_records {text : String} {name : Option String} {document : Json}
    (loaded : loadJson text name = .ok document) {source : String} {records : List Json}
    (found : (recordsAt document source).alone = .ok records) (mem : record ∈ records) :
    record.IsKeyed := by
  have keyed : document.IsKeyed := Json.isKeyed_read (mapError_eq_ok_iff.mp loaded)
  rw [alone_recordsAt, map_eq_ok_iff] at found
  obtain ⟨value, under, rfl⟩ := found
  have within := keyed.resolve (mapError_eq_ok_iff.mp under)
  cases value with
  | array items => exact within.items record mem
  | _ =>
    obtain rfl := List.mem_singleton.mp mem
    exact within

/-- Without dynamic fields, the row of every record stands in one of the statements. -/
theorem exists_mem_of_closed {registry : TransformRegistry} {document : Json} {size : BatchSize}
    {session : Session} {written : List DataStatement}
    (h : (vertexStatements registry v.closed document size.size).outcome session = .ok written)
    {records : List Json} (found : (recordsAt document v.source).alone = .ok records)
    (mem : record ∈ records) {row : VertexRow}
    (given : (vertexRow registry v record).alone = .ok row) :
    ∃ rows, .insertVertices v.tag (columnNames v.properties) rows ∈ written ∧ row ∈ rows := by
  rw [(hasEffect_vertexStatements registry document v.closed size.size).outcome_eq,
    map_eq_ok_iff] at h
  obtain ⟨portion, made, rfl⟩ := h
  obtain ⟨rows, ofRecords, -, rfl⟩ :=
    vertexPortion_static_eq_ok registry document rfl (Prod.ext made rfl)
  obtain ⟨records', found', each⟩ := exists_records_of_rows document ofRecords
  obtain rfl := Except.ok.inj (found.symm.trans found')
  obtain ⟨row', among, given'⟩ := exists_left_of_forall₂ each.flip mem
  obtain rfl := Except.ok.inj (given.symm.trans given')
  obtain ⟨block, ofBatches, within⟩ := exists_batch_of_mem size among
  exact ⟨block, List.mem_map_of_mem ofBatches, within⟩

/-- The declared values of a record are those of its row in a batch. -/
theorem upsert_eq (registry : TransformRegistry) {id : VertexId} {statement : DataStatement}
    (key : (vertexIdAt record v.key).alone = .ok id)
    (h : (upsert registry v id record).alone = .ok statement) :
    ∃ declared dynamic, (vertexRow registry v record).alone = .ok ⟨id, declared⟩ ∧
      declared.length = v.properties.length ∧
      List.Forall₂ (fun field literal =>
        ∃ scalar, Scalar.ofJson? field.2 = some scalar ∧ literal = .value scalar)
        (v.admitted record) dynamic ∧
      statement = .upsertVertex v.tag
        (columnNames v.properties ++ (v.admitted record).map Prod.fst) ⟨id, declared ++ dynamic⟩ := by
  obtain ⟨declared, literals, rfl⟩ := alone_upsert_eq_ok_iff.mp h
  have pairs := forall₂_dynamicOf v record
  have keys : (v.admitted record).map Prod.fst = (dynamicOf v record).map Prod.fst :=
    map_eq_map_of_forall₂ (pairs.imp fun _ _ pair => pair.1)
  refine ⟨declared, _, alone_vertexRow_eq_ok_iff.mpr ⟨key, literals⟩, literals.length_eq.symm, ?_,
    by rw [keys]⟩
  rw [List.forall₂_map_right_iff]
  exact pairs.imp fun _ pair same => ⟨pair.2, same.2, rfl⟩

end

/-- The statement of a record with dynamic fields has the declared columns in order, and behind them
the admitted entries of the record in its order. There are as many values as columns: the declared
ones, which are those of the row that batches have for the record, and the scalars of the admitted
entries, each at its key. Where the keys of the record differ, as they do in what is read from a
text, no two columns have the same name, or are written alike. -/
theorem columns_of_upsert (registry : TransformRegistry) {mapping : GraphMapping}
    (built : mapping.IsBuilt) {v : VertexMapping} (vertex : v ∈ mapping.vertices) {record : Json}
    {session : Session} {statement : DataStatement}
    (h : (upsert? registry v record).outcome session = .ok (some statement)) :
    ∃ id declared dynamic,
      statement = .upsertVertex v.tag
        (columnNames v.properties ++ (v.admitted record).map Prod.fst) ⟨id, declared ++ dynamic⟩ ∧
      (declared ++ dynamic).length = statement.columns.length ∧
      List.Forall₂ (fun field literal =>
        ∃ scalar, Scalar.ofJson? field.2 = some scalar ∧ literal = .value scalar)
        (v.admitted record) dynamic ∧
      (record.IsKeyed → statement.columns.Nodup ∧ (statement.columns.map writeName).Nodup) ∧
      (∀ (text : String) (name : Option String) (document : Json) (records : List Json),
        loadJson text name = .ok document → (recordsAt document v.source).alone = .ok records →
          record ∈ records → record.IsKeyed) ∧
      (vertexRow registry v record).alone = .ok ⟨id, declared⟩ ∧
      ∀ (document : Json) (size : BatchSize) (other : Session) (written : List DataStatement)
        (records : List Json),
        (vertexStatements registry v.closed document size.size).outcome other = .ok written →
        (recordsAt document v.source).alone = .ok records → record ∈ records →
        ∃ rows, .insertVertices v.tag (columnNames v.properties) rows ∈ written ∧
          ⟨id, declared⟩ ∈ rows := by
  obtain ⟨id, key, -, given⟩ := exists_upsert_of_upsert? h
  obtain ⟨declared, dynamic, row, length, literals, rfl⟩ := upsert_eq registry key given
  refine ⟨id, declared, dynamic, rfl, ?_, literals, fun keyed => ?_, ?_, row, ?_⟩
  · simp [DataStatement.columns, columnNames, length, literals.length_eq]
  · have distinct := nodup_columns (built.nodup_vertexProperties vertex) keyed
    exact ⟨distinct, distinct.map writeName_injective⟩
  · intro text name document records loaded found mem
    exact isKeyed_of_mem_records loaded found mem
  · intro document size other written records found ofSource mem
    exact exists_mem_of_closed found ofSource mem row

/-- Runners with their names, and with all whole numbers and texts that are known of them but for
their notes. -/
def runnersDefinition : Yaml.Value :=
  .map [
    (.string "tags", .map [
      (.string "Runner", .map [
        (.string "from", .string "runners"),
        (.string "key", .string "card/number"),
        (.string "properties", .list [sampleEntry "name" "string" []]),
        (.string "dynamic_fields", .map [
          (.string "enabled", .bool true),
          (.string "allowed_types", .list [.string "int64", .string "string"]),
          (.string "excluded_properties", .list [.string "note"])])])])]

def runnersVertex : VertexMapping where
  tag := "Runner"
  source := "runners"
  key := "card/number"
  properties := [{ name := "name", path := "name", type := "string" }]
  dynamicFields := {
    enabled := true
    allowedTypes := ["INT64", "STRING"]
    excludedProperties := ["note"] }

theorem isBuilt_runners : GraphMapping.IsBuilt { vertices := [runnersVertex] } :=
  isBuilt_of_mappingOf (show mappingOf runnersDefinition = .ok _ from rfl)

/-- A runner with a card that is no property, a height of a type that is not allowed, and a note. -/
def runnerRecord : Json :=
  .object [("age", .integer 31), ("name", .string "kim"), ("card", .object [("number", .integer 7)]),
    ("height", .float .nan), ("club", .string "red"), ("note", .string "late"), ("since", .null)]

theorem isKeyed_runnerRecord : runnerRecord.IsKeyed := by
  have card : (Json.object [("number", .integer 7)]).IsKeyed :=
    .object (by decide) (by simpa using .integer 7)
  refine .object (by decide) ?_
  simp only [List.forall_mem_cons]
  exact ⟨.integer _, .string _, card, .float _, .string _, .string _, .null, by simp⟩

theorem columns_of_upsert_runner :
    GraphMapping.IsBuilt { vertices := [runnersVertex] } ∧
      (upsert? .builtin runnersVertex runnerRecord).outcome {} = .ok (some
        (.upsertVertex "Runner" ["name", "age", "club"]
          ⟨⟨"7"⟩, [.value (.text "kim"), .value (.integer 31), .value (.text "red")]⟩)) ∧
      (∃ declared,
        (vertexRow .builtin runnersVertex runnerRecord).alone = .ok ⟨⟨"7"⟩, declared⟩) ∧
      ["name", "age", "club"].Nodup := by
  have written : (upsert? .builtin runnersVertex runnerRecord).outcome {} = .ok (some
      (.upsertVertex "Runner" ["name", "age", "club"]
        ⟨⟨"7"⟩, [.value (.text "kim"), .value (.integer 31), .value (.text "red")]⟩)) := by
    rw [← toOption_eq_some_iff]
    decide +kernel
  obtain ⟨id, declared, dynamic, same, -, -, distinct, -, row, -⟩ :=
    columns_of_upsert .builtin isBuilt_runners List.mem_cons_self written
  obtain ⟨rfl, -⟩ := VertexRow.mk.inj (DataStatement.upsertVertex.inj same).2.2
  exact ⟨isBuilt_runners, written, ⟨declared, row⟩, (distinct isKeyed_runnerRecord).1⟩

end DocGraph
