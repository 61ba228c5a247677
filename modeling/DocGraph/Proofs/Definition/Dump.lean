import DocGraph.Definition.Dump
import DocGraph.Proofs.Mapping.Built
import Mathlib.Data.List.Induction

/-!
# Definitions that are written out

A definition is read generously: parts may be left out or abbreviated, and texts, numbers and
truth values may stand for each other. Written out, it has one form, with all of its parts. This
form is read as the same definition, because whatever a reader has accepted it reads again from
what is written for it.

## Main definitions

* `Rereads`: a reader reads again what it has accepted, from its written form.

## Main results

* `rereads_rule`, `rereads_transform`, `rereads_property`, `rereads_tag`, `rereads_edge`: the
  parts of a definition.
* `dump_fixed_of_accepted`: a definition and the mapping that it makes, read from the definition
  written out.
-/

namespace DocGraph

open Yaml (Value)

/-- What a reader has accepted it reads again from its written form. -/
def Rereads {α : Type} (read : Value → Reads α) (write : α → Json) : Prop :=
  ∀ value a, read value = .ok a → read (.ofJson (write a)) = .ok a

/-! ## Fields of written records -/

theorem lookup?_ofFields (fields : List (String × Json)) (name : String) :
    Value.lookup? (Value.ofFields fields) name = (fields.lookup name).map Value.ofJson := by
  induction fields with
  | nil => rfl
  | cons field rest ih =>
    obtain ⟨key, value⟩ := field
    have same : Value.isSameKey (.string key) (.string name) = (name == key) :=
      Bool.beq_comm (a := key)
    simp only [Value.lookup?, Value.ofFields, List.find?_cons, List.lookup_cons, same] at ih ⊢
    cases name == key with
    | true => rfl
    | false => exact ih

section

variable {α : Type} {read : Value → Reads α} {fields : List (String × Json)} {json : Json}

theorem readField_ofFields {name : String} {default a : α}
    (found : fields.lookup name = some json) (reads : read (.ofJson json) = .ok a) :
    readField (Value.ofFields fields) [name] default read = .ok a := by
  simp only [readField, entryOf?, List.findSome?_cons, lookup?_ofFields, found, Option.map_some,
    reads]
  rfl

theorem requireField_ofFields {name : String} {a : α}
    (found : fields.lookup name = some json) (reads : read (.ofJson json) = .ok a) :
    requireField (Value.ofFields fields) [name] read = .ok a := by
  simp only [requireField, entryOf?, List.findSome?_cons, lookup?_ofFields, found, Option.map_some,
    reads]
  rfl

/-- A field that was not written out under its first name is found under the second. -/
theorem requireField_ofFields_second {first name : String} {a : α}
    (missing : fields.lookup first = none) (found : fields.lookup name = some json)
    (reads : read (.ofJson json) = .ok a) :
    requireField (Value.ofFields fields) [first, name] read = .ok a := by
  simp only [requireField, entryOf?, List.findSome?_cons, lookup?_ofFields, missing, found,
    Option.map_some, Option.map_none, reads]
  rfl

/-- A field that was accepted is read again, whether it was there or had its default. -/
theorem Rereads.field {write : α → Json} (h : Rereads read write) {default : α}
    (ofDefault : read (.ofJson (write default)) = .ok default)
    {entries : List (Value × Value)} {names : List String} {a : α}
    (accepted : readField entries names default read = .ok a) :
    read (.ofJson (write a)) = .ok a := by
  unfold readField at accepted
  split at accepted
  next => exact h _ a (mapError_eq_ok_iff.mp accepted)
  next =>
    cases accepted
    exact ofDefault

end

/-! ## Single values -/

theorem rereads_written : Rereads readWritten .string := fun _ _ _ => rfl

theorem readOptional_ofText? (text : Option String) :
    readOptional readWritten (.ofJson (.ofText? text)) = .ok text := by
  cases text <;> rfl

theorem readOptional_ofBool? (b : Option Bool) :
    readOptional readBool (.ofJson (.ofBool? b)) = .ok b := by
  cases b <;> rfl

theorem readOptional_ofInteger? (n : Option Int) :
    readOptional readWhole (.ofJson (.ofInteger? n)) = .ok n := by
  cases n <;> rfl

theorem readOptional_ofDefault? (text : Option String) :
    readOptional readDefault (.ofJson (.ofText? text)) = .ok text := by
  cases text <;> rfl

/-! ## Lists and dictionaries -/

section

variable {α : Type} {read : Value → Reads α} {write : α → Json}

theorem exists_read_of_readEach {start : Nat} {values : List Value} {items : List α}
    (h : readEach read start values = .ok items) : ∀ a ∈ items, ∃ value, read value = .ok a := by
  induction values generalizing start items with
  | nil =>
    cases h
    simp
  | cons value rest ih =>
    simp only [readEach, bind_eq_ok_iff] at h
    obtain ⟨first, accepted, others, further, made⟩ := h
    cases made
    exact List.forall_mem_cons.mpr ⟨⟨value, mapError_eq_ok_iff.mp accepted⟩, ih further⟩

theorem exists_read_of_readItems {value : Value} {items : List α}
    (h : readItems read value = .ok items) : ∀ a ∈ items, ∃ value, read value = .ok a := by
  unfold readItems at h
  split at h
  next => exact exists_read_of_readEach h
  next => exact exists_read_of_readEach h
  next => exact exists_read_of_readEach h
  next => cases h

theorem readEach_ofItems (start : Nat) {items : List α}
    (h : ∀ a ∈ items, read (.ofJson (write a)) = .ok a) :
    readEach read start (Value.ofItems (items.map write)) = .ok items := by
  induction items generalizing start with
  | nil => rfl
  | cons a rest ih =>
    obtain ⟨first, others⟩ := List.forall_mem_cons.mp h
    rw [List.map_cons, Value.ofItems, readEach, first, ih (start + 1) others]
    rfl

theorem Rereads.items (h : Rereads read write) :
    Rereads (readItems read) fun items => .array (items.map write) := by
  intro value items accepted
  refine readEach_ofItems 0 fun a mem => ?_
  obtain ⟨value, read⟩ := exists_read_of_readItems accepted a mem
  exact h value a read

/-- The values of an ordered object are among those that it was made from. -/
theorem snd_mem_of_mem_orderedPairs {pairs : List (String × α)} {field : String × α}
    (h : field ∈ orderedPairs pairs) : field.2 ∈ pairs.map Prod.snd := by
  unfold orderedPairs at h
  induction pairs using List.reverseRecOn with
  | nil => cases h
  | append_singleton pairs pair ih =>
    rw [List.foldl_append] at h
    rw [List.map_append, List.mem_append]
    rcases mem_insertPair h with value | h
    · exact .inr (by simp [value])
    · exact .inl (ih h)

/-- So are its keys. -/
theorem fst_mem_of_mem_orderedPairs {pairs : List (String × α)} {field : String × α}
    (h : field ∈ orderedPairs pairs) : field.1 ∈ pairs.map Prod.fst := by
  replace h := List.mem_map_of_mem (f := Prod.fst) h
  unfold orderedPairs at h
  induction pairs using List.reverseRecOn with
  | nil => cases h
  | append_singleton pairs pair ih =>
    rw [List.foldl_append] at h
    rw [List.map_append, List.mem_append]
    rcases mem_keys_insertPair.mp h with same | h
    · exact .inr (by simp [same])
    · exact .inl (ih h)

theorem insertPair_of_notMem {fields : List (String × α)} {key : String}
    (h : key ∉ fields.map Prod.fst) (value : α) :
    insertPair fields key value = fields ++ [(key, value)] := by
  induction fields with
  | nil => rfl
  | cons field rest ih =>
    obtain ⟨other, stored⟩ := field
    obtain ⟨apart, others⟩ := not_or.mp (mt List.mem_cons.mpr h)
    rw [insertPair, if_neg (by simpa using Ne.symm apart), ih others, List.cons_append]

/-- Pairs with distinct keys are an ordered object as they are. -/
theorem orderedPairs_of_nodup {pairs : List (String × α)} (h : (pairs.map Prod.fst).Nodup) :
    orderedPairs pairs = pairs := by
  unfold orderedPairs
  induction pairs using List.reverseRecOn with
  | nil => rfl
  | append_singleton pairs pair ih =>
    rw [List.map_append, List.nodup_append] at h
    obtain ⟨distinct, -, apart⟩ := h
    rw [List.foldl_append, ih distinct]
    exact insertPair_of_notMem (fun mem => apart _ mem _ (by simp) rfl) pair.2

theorem exists_read_of_readEntries {entries : List (Value × Value)} {things : List (String × α)}
    (h : readEntries read entries = .ok things) :
    ∀ a ∈ things.map Prod.snd, ∃ value, read value = .ok a := by
  induction entries generalizing things with
  | nil =>
    cases h
    simp
  | cons entry rest ih =>
    obtain ⟨key, value⟩ := entry
    simp only [readEntries, bind_eq_ok_iff] at h
    obtain ⟨name, -, item, accepted, others, further, made⟩ := h
    cases made
    exact List.forall_mem_cons.mpr ⟨⟨value, mapError_eq_ok_iff.mp accepted⟩, ih further⟩

/-- A dictionary holds accepted things under distinct names. -/
theorem nodup_and_exists_read_of_readDictionary {value : Value} {things : List (String × α)}
    (h : readDictionary read value = .ok things) :
    (things.map Prod.fst).Nodup ∧ ∀ thing ∈ things, ∃ value, read value = .ok thing.2 := by
  unfold readDictionary at h
  split at h
  next entries =>
    obtain ⟨pairs, accepted, rfl⟩ := map_eq_ok_iff.mp h
    refine ⟨nodup_keys_orderedPairs pairs, fun thing mem => ?_⟩
    exact exists_read_of_readEntries accepted _ (snd_mem_of_mem_orderedPairs mem)
  next => cases h

theorem readEntries_ofFields {things : List (String × α)}
    (h : ∀ thing ∈ things, read (.ofJson (write thing.2)) = .ok thing.2) :
    readEntries read (Value.ofFields (things.map fun thing => (thing.1, write thing.2))) =
      .ok things := by
  induction things with
  | nil => rfl
  | cons thing rest ih =>
    obtain ⟨first, others⟩ := List.forall_mem_cons.mp h
    rw [List.map_cons, Value.ofFields, readEntries, first, ih others]
    rfl

theorem Rereads.dictionary (h : Rereads read write) :
    Rereads (readDictionary read) (dumpSection write) := by
  intro value things accepted
  obtain ⟨distinct, each⟩ := nodup_and_exists_read_of_readDictionary accepted
  have entries : readEntries read
      (Value.ofFields (things.map fun thing => (thing.1, write thing.2))) = .ok things :=
    readEntries_ofFields fun thing mem => (each thing mem).elim fun value read => h value _ read
  calc readDictionary read (.ofJson (dumpSection write things))
      = orderedPairs <$> (.ok things : Reads _) := congrArg (orderedPairs <$> ·) entries
    _ = .ok things := congrArg Except.ok (orderedPairs_of_nodup distinct)

/-- A section of a definition is a dictionary once it is written out. -/
theorem Rereads.inSection (h : Rereads read write) :
    Rereads (readSection read) (dumpSection write) :=
  fun value things accepted => h.dictionary (orEmpty (.map []) value) things accepted

end

theorem rereads_texts : Rereads readTexts Json.ofTexts := rereads_written.dictionary

theorem rereads_names : Rereads (readItems (readText false)) Json.ofList :=
  Rereads.items fun _ _ _ => rfl

/-! ## The parts of a definition -/

theorem rereads_rule : Rereads readRule TransformRule.dump := by
  intro value rule accepted
  simp only [readRule, bind_eq_ok_iff] at accepted
  obtain ⟨entries, -, name, -, type, -, condition, -, text, -, field, -, mappings, ofMappings,
    made⟩ := accepted
  cases made
  simp only [readRule, bind_eq_ok_iff]
  refine ⟨_, rfl, name, readField_ofFields rfl rfl, type, readField_ofFields rfl rfl,
    condition, readField_ofFields rfl rfl, text, readField_ofFields rfl rfl,
    field, readField_ofFields rfl rfl,
    mappings, readField_ofFields rfl (rereads_texts.field rfl ofMappings), rfl⟩

theorem rereads_transform : Rereads readTransform TransformDefinition.dump := by
  intro value transform accepted
  simp only [readTransform, bind_eq_ok_iff] at accepted
  obtain ⟨entries, -, name, -, type, -, delimiter, -, format, -, field, -, condition, -, mappings,
    ofMappings, rules, ofRules, params, ofParams, made⟩ := accepted
  cases made
  simp only [readTransform, bind_eq_ok_iff]
  refine ⟨_, rfl, name, readField_ofFields rfl (readOptional_ofText? name),
    type, readField_ofFields rfl (readOptional_ofText? type),
    delimiter, readField_ofFields rfl (readOptional_ofText? delimiter),
    format, readField_ofFields rfl (readOptional_ofText? format),
    field, readField_ofFields rfl (readOptional_ofText? field),
    condition, readField_ofFields rfl (readOptional_ofText? condition),
    mappings, readField_ofFields rfl (rereads_texts.field rfl ofMappings),
    rules, readField_ofFields rfl (rereads_rule.items.field rfl ofRules),
    params, readField_ofFields rfl (rereads_texts.field rfl ofParams), rfl⟩

theorem rereads_optionalTransform : Rereads (readOptional readTransform)
    fun transform => (transform.map TransformDefinition.dump).getD .null := by
  rintro value (_ | transform) accepted
  · rfl
  · unfold readOptional at accepted
    split at accepted
    next => cases accepted
    next =>
      obtain ⟨_, accepted, same⟩ := map_eq_ok_iff.mp accepted
      cases same
      exact congrArg (some <$> ·) (rereads_transform value transform accepted)

theorem rereads_dynamicFields : Rereads readDynamicFields DynamicFieldsDefinition.dump := by
  intro value fields accepted
  simp only [readDynamicFields, bind_eq_ok_iff] at accepted
  obtain ⟨entries, -, enabled, -, allowed, ofAllowed, excluded, ofExcluded, made⟩ := accepted
  cases made
  simp only [readDynamicFields, bind_eq_ok_iff]
  exact ⟨_, rfl, enabled, readField_ofFields rfl rfl,
    allowed, readField_ofFields rfl (rereads_names.field rfl ofAllowed),
    excluded, readField_ofFields rfl (rereads_names.field rfl ofExcluded), rfl⟩

theorem rereads_property : Rereads readProperty PropertyDefinition.dump := by
  intro value property accepted
  simp only [readProperty, bind_eq_ok_iff] at accepted
  obtain ⟨entries, -, path, -, name, -, type, -, optional, -, index, -, indexable, -, maxLength, -,
    default, -, transform, ofTransform, made⟩ := accepted
  cases made
  simp only [readProperty, bind_eq_ok_iff]
  -- The path is written out under the second of its names.
  exact ⟨_, rfl, path, requireField_ofFields_second rfl rfl rfl,
    name, readField_ofFields rfl (readOptional_ofText? name),
    type, readField_ofFields rfl (readOptional_ofText? type),
    optional, readField_ofFields rfl rfl,
    index, readField_ofFields rfl (readOptional_ofBool? index),
    indexable, readField_ofFields rfl (readOptional_ofBool? indexable),
    maxLength, readField_ofFields rfl (readOptional_ofInteger? maxLength),
    default, readField_ofFields rfl (readOptional_ofDefault? default),
    transform, readField_ofFields rfl (rereads_optionalTransform.field rfl ofTransform), rfl⟩

theorem rereads_properties :
    Rereads readProperties fun properties => .array (properties.map PropertyDefinition.dump) :=
  fun value properties accepted =>
    rereads_property.items (orEmpty (.list []) value) properties accepted

theorem rereads_tag : Rereads readTag TagDefinition.dump := by
  intro value tag accepted
  simp only [readTag, bind_eq_ok_iff] at accepted
  obtain ⟨entries, -, source, -, key, -, dynamicFields, ofDynamic, properties, ofProperties,
    made⟩ := accepted
  cases made
  simp only [readTag, bind_eq_ok_iff]
  exact ⟨_, rfl, source, requireField_ofFields_second rfl rfl rfl,
    key, readField_ofFields rfl rfl,
    dynamicFields, readField_ofFields rfl (rereads_dynamicFields.field rfl ofDynamic),
    properties, readField_ofFields rfl (rereads_properties.field rfl ofProperties), rfl⟩

theorem rereads_edge : Rereads readEdge EdgeDefinition.dump := by
  intro value edge accepted
  simp only [readEdge, bind_eq_ok_iff] at accepted
  obtain ⟨entries, -, source, -, sourceTag, -, targetTag, -, sourceKey, -, targetKey, -, properties,
    ofProperties, made⟩ := accepted
  cases made
  simp only [readEdge, bind_eq_ok_iff]
  exact ⟨_, rfl, source, requireField_ofFields_second rfl rfl rfl,
    sourceTag, requireField_ofFields rfl rfl,
    targetTag, requireField_ofFields rfl rfl,
    sourceKey, readField_ofFields rfl rfl,
    targetKey, readField_ofFields rfl rfl,
    properties, readField_ofFields rfl (rereads_properties.field rfl ofProperties), rfl⟩

theorem rereads_settings : Rereads readSettings SettingsDefinition.dump := by
  intro value settings accepted
  simp only [readSettings, bind_eq_ok_iff] at accepted
  obtain ⟨entries, -, stringLength, -, arrayDelimiter, -, dynamicTags, -, made⟩ := accepted
  cases made
  simp only [readSettings, bind_eq_ok_iff]
  exact ⟨_, rfl, stringLength, readField_ofFields rfl (readOptional_ofInteger? stringLength),
    arrayDelimiter, readField_ofFields rfl rfl, dynamicTags, readField_ofFields rfl rfl, rfl⟩

/-! ## Whole definitions -/

theorem readDefinition_dump {entries : List (Value × Value)} {definition : MappingDefinition}
    (accepted : readDefinition entries = .ok definition) :
    MappingDefinition.ofValue (.ofJson definition.dump) = .ok definition := by
  simp only [readDefinition, bind_eq_ok_iff] at accepted
  obtain ⟨settings, ofSettings, tags, ofTags, edges, ofEdges, transforms, ofTransforms, made⟩ :=
    accepted
  cases made
  refine mapError_eq_ok_iff.mpr ?_
  simp only [readDefinition, bind_eq_ok_iff]
  exact ⟨settings, readField_ofFields rfl (rereads_settings.field rfl ofSettings),
    tags, readField_ofFields rfl (rereads_tag.inSection.field rfl ofTags),
    edges, readField_ofFields rfl (rereads_edge.inSection.field rfl ofEdges),
    transforms, readField_ofFields rfl (rereads_transform.inSection.field rfl ofTransforms), rfl⟩

/-- A value that is accepted as a definition may be replaced by the definition written out: this
is read as the same definition, and what comes of building its mapping is the same, be it the
mapping or a fault. -/
theorem dump_fixed_of_accepted {value : Value} {definition : MappingDefinition}
    (accepted : MappingDefinition.ofValue value = .ok definition) :
    MappingDefinition.ofValue (.ofJson definition.dump) = .ok definition ∧
      mappingOf (.ofJson definition.dump) = mappingOf value := by
  have again : MappingDefinition.ofValue (.ofJson definition.dump) = .ok definition := by
    unfold MappingDefinition.ofValue at accepted
    split at accepted
    next => exact readDefinition_dump (mapError_eq_ok_iff.mp accepted)
    next => exact readDefinition_dump (mapError_eq_ok_iff.mp accepted)
    next => cases accepted
  refine ⟨again, ?_⟩
  rw [mappingOf, mappingOf, definitionOf, definitionOf, again, accepted]

/-- A definition with as much left out or abbreviated as there can be: no settings, a tag whose
name is a number, dynamic fields that are only enabled, and transforms that are a name and a list
of rules. -/
def briefDefinition : Value :=
  .map [
    (.string "settings", .null),
    (.string "edges", .null),
    (.string "tags", .map [
      (.integer 7, .map [
        (.string "from", .string "sevens"),
        (.string "dynamic_fields", .bool true),
        (.string "properties", .list [
          .map [
            (.string "json", .string "tags"),
            (.string "index", .string "Yes"),
            (.string "max_length", .string " 012.0"),
            (.string "default", .bool false),
            (.string "transform", .list [.map [(.string "type", .string "BOOL")]])],
          .map [
            (.string "json_path", .string "price"),
            (.string "type", .string "INT"),
            (.string "transform", .string "price_normalize")]])])])]

def briefContent : MappingDefinition where
  tags := [("7", {
    source := "sevens"
    dynamicFields := { enabled := true }
    properties := [
      { path := "tags"
        index := some true
        maxLength := some 12
        default := some "false"
        transform := some { type := some "CUSTOM", rules := [{ type := "BOOL" }] } },
      { path := "price"
        type := some "INT"
        transform := some { name := some "price_normalize" } }] })]

theorem dump_fixed_of_accepted_brief :
    MappingDefinition.ofValue briefDefinition = .ok briefContent ∧
      MappingDefinition.ofValue (.ofJson briefContent.dump) = .ok briefContent ∧
      mappingOf (.ofJson briefContent.dump) = mappingOf briefDefinition := by
  have accepted : MappingDefinition.ofValue briefDefinition = .ok briefContent := rfl
  exact ⟨accepted, dump_fixed_of_accepted accepted⟩

end DocGraph
