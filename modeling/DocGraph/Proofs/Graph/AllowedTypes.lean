import DocGraph.Proofs.Graph.UpsertColumns

/-!
# Types of dynamic properties

A definition can limit the types of dynamic properties. The names that it gives for them are brought
into upper case and compared with the names of types, but aliases are not resolved, as they are in
the types of declared properties. So an alias in the list allows nothing.

## Main definitions

* `IsAlias`: a name that is an alias of a type, in any letter case.
* `VertexMapping.LeavesFree`: a key that is neither spoken for nor excluded.

## Main results

* `resolve?_eq_some_iff`: the names that stand for a type.
* `mem_columns_iff_named`: which entries of a record a limit lets through, and when these are the
  entries of the types that the names in it stand for.
-/

namespace DocGraph

/-! ## Names of types -/

/-- A name is an alias of a type, in any letter case. -/
def IsAlias (name : String) (type : ValueType) : Prop :=
  ValueType.aliases.lookup (upper name) = some type

instance (name : String) (type : ValueType) : Decidable (IsAlias name type) :=
  inferInstanceAs (Decidable (_ = _))

theorem find?_name_eq_some_iff {name : String} {type : ValueType} :
    ValueType.all.find? (·.name = name) = some type ↔ name = type.name := by
  constructor
  · intro found
    have same := List.find?_some found
    exact (of_decide_eq_true same).symm
  · rintro rfl
    cases type <;> rfl

/-- No alias is the name of a type. -/
theorem lookup_aliases_name (type : ValueType) : ValueType.aliases.lookup type.name = none := by
  cases type <;> rfl

/-- A name stands for a type if it is an alias of the type or its name, in any letter case. -/
theorem resolve?_eq_some_iff {name : String} {type : ValueType} :
    ValueType.resolve? name = some type ↔ IsAlias name type ∨ upper name = type.name := by
  unfold ValueType.resolve? ValueType.ofName? IsAlias
  cases found : ValueType.aliases.lookup (upper name) with
  | some other =>
    have noName : upper name ≠ type.name := by
      intro same
      rw [same, lookup_aliases_name] at found
      cases found
    simp [noName]
  | none => simp [find?_name_eq_some_iff]

/-! ## Limits in definitions -/

section

variable {definition : MappingDefinition} {mapping : GraphMapping} {v : VertexMapping}

/-- In a definition with one entry for every tag, the one of a vertex mapping has its tag. -/
theorem dynamicFields_of_built (keyed : definition.IsKeyed)
    (built : buildMapping definition = .ok mapping) (vertex : v ∈ mapping.vertices)
    {tag : String} {tagDefinition : TagDefinition}
    (defined : (tag, tagDefinition) ∈ definition.tags) (named : v.tag = tag) :
    v.dynamicFields = buildDynamicFields tagDefinition.dynamicFields := by
  simp only [buildMapping, bind_eq_ok_iff] at built
  obtain ⟨vertices, ofTags, edges, -, rest⟩ := built
  cases rest
  obtain ⟨entry, among, made⟩ := exists_of_mem_mapM ofTags vertex
  have same : entry = (tag, tagDefinition) :=
    List.inj_on_of_nodup_map keyed.1 among defined ((tag_buildVertex made).symm.trans named)
  subst same
  simp only [buildVertex, bind_eq_ok_iff] at made
  obtain ⟨_, -, _, -, properties, -, rest⟩ := made
  cases rest
  rfl

/-- A key of a record is neither spoken for nor excluded. -/
structure VertexMapping.LeavesFree (v : VertexMapping) (key : String) : Prop where
  undeclared : key ∉ columnNames v.properties
  notKey : (splitPath v.key).head? ≠ some key
  notPath : ∀ property ∈ v.properties, (splitPath property.path).head? ≠ some key
  notExcluded : key ∉ v.dynamicFields.excludedProperties

theorem mem_allowedTypes_iff {limit : DynamicFieldsDefinition} {name : String} :
    name ∈ (buildDynamicFields limit).allowedTypes ↔ ∃ t ∈ limit.allowedTypes, upper t = name := by
  simp [buildDynamicFields, List.mem_eraseDups]

/-- With a limit, a free entry of a type is admitted if the name of the type is in the limit. -/
theorem admits_iff_named {limit : DynamicFieldsDefinition}
    (limited : limit.allowedTypes ≠ []) (same : v.dynamicFields = buildDynamicFields limit)
    {key : String} {value : Json} (free : v.LeavesFree key) {type : ValueType}
    (scalar : value.dynamicType? = some type) :
    v.Admits key value ↔ ∃ t ∈ limit.allowedTypes, upper t = type.name := by
  have some : v.dynamicFields.allowedTypes ≠ [] := by
    obtain ⟨t, listed⟩ := List.exists_mem_of_ne_nil _ limited
    rw [same]
    exact List.ne_nil_of_mem (mem_allowedTypes_iff.mpr ⟨t, listed, rfl⟩)
  have among : type.name ∈ v.dynamicFields.allowedTypes ↔
      ∃ t ∈ limit.allowedTypes, upper t = type.name := by
    rw [same, mem_allowedTypes_iff]
  rw [← among]
  constructor
  · intro admits
    obtain ⟨other, found, allowed⟩ := admits.allowed
    obtain rfl := Option.some.inj (found.symm.trans scalar)
    exact allowed.resolve_left some
  · intro allowed
    exact ⟨free.undeclared, free.notKey, free.notPath, free.notExcluded, type, scalar,
      .inr allowed⟩

/-- A free entry of a record has a column if it is admitted. -/
theorem mem_columns_iff_admits {registry : TransformRegistry} {fields : List (String × Json)}
    (distinct : (Json.object fields).IsKeyed) {session : Session} {statement : DataStatement}
    (h : (upsert? registry v (.object fields)).outcome session = .ok (some statement))
    {key : String} {value : Json} (mem : (key, value) ∈ fields)
    (undeclared : key ∉ columnNames v.properties) :
    key ∈ statement.columns ↔ v.Admits key value := by
  obtain ⟨id, at_key, -, given⟩ := exists_upsert_of_upsert? h
  obtain ⟨declared, dynamic, -, -, -, rfl⟩ := upsert_eq registry at_key given
  have columns : key ∈ columnNames v.properties ++
      (v.admitted (.object fields)).map Prod.fst ↔ ∃ value, (key, value) ∈ fields ∧
        v.Admits key value := by
    simp [undeclared, VertexMapping.admitted]
  refine columns.trans ⟨?_, fun admits => ⟨value, mem, admits⟩⟩
  rintro ⟨other, also, admits⟩
  have same : (key, other) = (key, value) :=
    List.inj_on_of_nodup_map distinct.fields.1 also mem rfl
  exact (Prod.mk.inj same).2 ▸ admits

end

/-- With a limit for the types of dynamic properties, a free entry of a record that is a scalar gets
a column exactly if some name in the limit is that of its type, in any letter case. This agrees with
what the names in the limit stand for, unless an alias of the type is among them and its name is
not: then there is no column for the entry. -/
theorem mem_columns_iff_named {definition : MappingDefinition} (keyed : definition.IsKeyed)
    {mapping : GraphMapping} (built : buildMapping definition = .ok mapping)
    {tag : String} {tagDefinition : TagDefinition}
    (defined : (tag, tagDefinition) ∈ definition.tags)
    (limited : tagDefinition.dynamicFields.allowedTypes ≠ [])
    {v : VertexMapping} (vertex : v ∈ mapping.vertices) (named : v.tag = tag)
    (registry : TransformRegistry) {fields : List (String × Json)}
    (distinct : (Json.object fields).IsKeyed) {session : Session} {statement : DataStatement}
    (h : (upsert? registry v (.object fields)).outcome session = .ok (some statement))
    {key : String} {value : Json} (mem : (key, value) ∈ fields) {type : ValueType}
    (scalar : value.dynamicType? = some type) (free : v.LeavesFree key) :
    (key ∈ statement.columns ↔
      ∃ t ∈ tagDefinition.dynamicFields.allowedTypes, upper t = type.name) ∧
    ((key ∈ statement.columns ↔
        ∃ t ∈ tagDefinition.dynamicFields.allowedTypes, ValueType.resolve? t = some type) ↔
      ((∃ t ∈ tagDefinition.dynamicFields.allowedTypes, IsAlias t type) →
        ∃ t ∈ tagDefinition.dynamicFields.allowedTypes, upper t = type.name)) := by
  have limit := dynamicFields_of_built keyed built vertex defined named
  have column : key ∈ statement.columns ↔
      ∃ t ∈ tagDefinition.dynamicFields.allowedTypes, upper t = type.name :=
    (mem_columns_iff_admits distinct h mem free.undeclared).trans
      (admits_iff_named limited limit free scalar)
  refine ⟨column, ?_⟩
  -- Names stand for a type as aliases or by themselves, and only the latter make a column.
  simp only [column, resolve?_eq_some_iff, and_or_left, exists_or]
  constructor
  · intro agrees byAlias
    exact agrees.mpr (.inl byAlias)
  · intro covered
    exact ⟨.inr, fun stands => stands.elim covered id⟩

/-- Counters with a limit for what is known of them. -/
def counterDefinition (limit : List String) : MappingDefinition where
  tags := [("Counter",
    { source := "counters", dynamicFields := { enabled := true, allowedTypes := limit } })]

def counterVertex (limit : List String) : VertexMapping where
  tag := "Counter"
  source := "counters"
  key := "id"
  properties := []
  dynamicFields := buildDynamicFields { enabled := true, allowedTypes := limit }

theorem buildMapping_counter (limit : List String) :
    buildMapping (counterDefinition limit) = .ok { vertices := [counterVertex limit] } := by
  have source : checkSource "counters" "Counter" = .ok () := by rfl
  have key : require (defaultKey ≠ "") (MappingFault.emptyKey "Counter") = .ok () := by rfl
  have properties : buildProperties [] "Counter" (buildSettings {}) [] = .ok [] := by rfl
  simp only [buildMapping, counterDefinition, List.map_nil, List.mapM_cons, List.mapM_nil,
    buildVertex, source, key, properties]
  rfl

def counterFields : List (String × Json) := [("id", .integer 1), ("count", .integer 3)]

theorem isKeyed_counterFields : (Json.object counterFields).IsKeyed :=
  .object (by decide) (by simp [counterFields, Json.IsKeyed.integer])

theorem mem_columns_iff_named_counter :
    (upsert? .builtin (counterVertex ["FLOAT", "int64"]) (.object counterFields)).outcome {} =
        .ok (some (.upsertVertex "Counter" ["count"] ⟨⟨"1"⟩, [.value (.integer 3)]⟩)) ∧
      ("count" ∈ ["count"] ↔ ∃ t ∈ ["FLOAT", "int64"], ValueType.resolve? t = some .int64) := by
  have written : (upsert? .builtin (counterVertex ["FLOAT", "int64"])
      (.object counterFields)).outcome {} =
        .ok (some (.upsertVertex "Counter" ["count"] ⟨⟨"1"⟩, [.value (.integer 3)]⟩)) := by
    rw [← toOption_eq_some_iff]
    decide +kernel
  have agrees := (mem_columns_iff_named ⟨by decide, by decide⟩
    (buildMapping_counter ["FLOAT", "int64"]) List.mem_cons_self (by decide) List.mem_cons_self rfl
    .builtin isKeyed_counterFields written (List.mem_cons_of_mem _ List.mem_cons_self) rfl
    ⟨by decide, by decide, by decide, by decide⟩).2
  exact ⟨written, agrees.mpr fun _ => ⟨"int64", by decide, by decide +kernel⟩⟩

/-- A count is a whole number, which is what `INT` stands for, and has no column. -/
theorem alias_without_column :
    ∃ statement, (counterDefinition ["INT"]).IsKeyed ∧
      buildMapping (counterDefinition ["INT"]) = .ok { vertices := [counterVertex ["INT"]] } ∧
      (Json.object counterFields).IsKeyed ∧
      (upsert? .builtin (counterVertex ["INT"]) (.object counterFields)).outcome {} =
        .ok (some statement) ∧
      (Json.integer 3).dynamicType? = some .int64 ∧ (counterVertex ["INT"]).LeavesFree "count" ∧
      ValueType.resolve? "INT" = some .int64 ∧ "count" ∉ statement.columns := by
  refine ⟨.upsertVertex "Counter" [] ⟨⟨"1"⟩, []⟩, ⟨by decide, by decide⟩, buildMapping_counter _,
    isKeyed_counterFields, ?_, rfl, ⟨by decide, by decide, by decide, by decide⟩,
    by decide +kernel, by decide⟩
  rw [← toOption_eq_some_iff]
  decide +kernel

end DocGraph
