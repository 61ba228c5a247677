import DocGraph.Proofs.Json.Keyed
import DocGraph.Run.Load

/-!
# Mappings that were built

A mapping is built from a definition. The tags and the edges of a definition are the entries of
dictionaries, so no two vertex mappings are of one tag, and no two edge mappings have one name.

## Main definitions

* `MappingDefinition.IsKeyed`: a definition with one entry for every tag and every edge.
* `GraphMapping.IsBuilt`: a mapping that such a definition makes.

## Main results

* `isBuilt_of_mappingOf`: the mapping of a value is built.
* `GraphMapping.IsBuilt.nodup_tags`, `GraphMapping.IsBuilt.nodup_edges`: its names differ.
-/

namespace DocGraph

/-! ## Definitions -/

/-- A definition has one entry for every tag and every edge, as the dictionaries in it do. -/
def MappingDefinition.IsKeyed (definition : MappingDefinition) : Prop :=
  (definition.tags.map Prod.fst).Nodup ∧ (definition.edges.map Prod.fst).Nodup

theorem nodup_keys_readSection {α : Type} {read : Yaml.Value → Reads α} {value : Yaml.Value}
    {things : List (String × α)} (h : readSection read value = .ok things) :
    (things.map Prod.fst).Nodup := by
  unfold readSection readDictionary at h
  split at h
  next entries _ =>
    obtain ⟨pairs, -, rfl⟩ := map_eq_ok_iff.mp h
    exact nodup_keys_orderedPairs pairs
  next => cases h

/-- A section that is not there has no entries. -/
theorem nodup_keys_readField {α : Type} {entries : List (Yaml.Value × Yaml.Value)}
    {names : List String} {read : Yaml.Value → Reads α} {things : List (String × α)}
    (h : readField entries names [] (readSection read) = .ok things) :
    (things.map Prod.fst).Nodup := by
  unfold readField at h
  split at h
  next => exact nodup_keys_readSection (mapError_eq_ok_iff.mp h)
  next =>
    cases h
    exact List.nodup_nil

theorem isKeyed_readDefinition {entries : List (Yaml.Value × Yaml.Value)}
    {definition : MappingDefinition} (h : readDefinition entries = .ok definition) :
    definition.IsKeyed := by
  simp only [readDefinition, bind_eq_ok_iff] at h
  obtain ⟨settings, -, tags, ofTags, edges, ofEdges, transforms, -, built⟩ := h
  cases built
  exact ⟨nodup_keys_readField ofTags, nodup_keys_readField ofEdges⟩

theorem isKeyed_definitionOf {value : Yaml.Value} {definition : MappingDefinition}
    (h : definitionOf value = .ok definition) : definition.IsKeyed := by
  have accepted := mapError_eq_ok_iff.mp h
  unfold MappingDefinition.ofValue at accepted
  split at accepted
  next => exact isKeyed_readDefinition (mapError_eq_ok_iff.mp accepted)
  next => exact isKeyed_readDefinition (mapError_eq_ok_iff.mp accepted)
  next => cases accepted

/-! ## Mappings -/

/-- A mapping is built from a definition. -/
def GraphMapping.IsBuilt (mapping : GraphMapping) : Prop :=
  ∃ definition : MappingDefinition, definition.IsKeyed ∧ buildMapping definition = .ok mapping

theorem isBuilt_of_mappingOf {value : Yaml.Value} {mapping : GraphMapping}
    (h : mappingOf value = .ok mapping) : mapping.IsBuilt := by
  obtain ⟨definition, ofValue, built⟩ := bind_eq_ok_iff.mp h
  exact ⟨definition, isKeyed_definitionOf ofValue, mapError_eq_ok_iff.mp built⟩

theorem tag_buildVertex {settings : Settings} {named : List (String × PropertyTransform)}
    {entry : String × TagDefinition} {v : VertexMapping}
    (h : buildVertex settings named entry = .ok v) : v.tag = entry.1 := by
  simp only [buildVertex, bind_eq_ok_iff] at h
  obtain ⟨_, -, _, -, properties, -, built⟩ := h
  cases built
  rfl

theorem name_buildEdge {settings : Settings} {named : List (String × PropertyTransform)}
    {entry : String × EdgeDefinition} {e : EdgeMapping}
    (h : buildEdge settings named entry = .ok e) : e.name = entry.1 := by
  simp only [buildEdge, bind_eq_ok_iff] at h
  obtain ⟨_, -, _, -, _, -, properties, -, built⟩ := h
  cases built
  rfl

/-- Members that are built one by one keep the names of their entries. -/
theorem names_eq_of_mapM {ε α β : Type} {build : String × α → Except ε β} {name : β → String}
    (keeps : ∀ entry b, build entry = .ok b → name b = entry.1) {entries : List (String × α)}
    {members : List β} (h : entries.mapM build = .ok members) :
    members.map name = entries.map Prod.fst := by
  have each := ((mapM_eq_ok_iff build entries members).mp h).imp keeps
  exact map_eq_map_of_forall₂ each.flip

namespace GraphMapping.IsBuilt

variable {mapping : GraphMapping}

theorem nodup_tags (built : mapping.IsBuilt) : (mapping.vertices.map (·.tag)).Nodup := by
  obtain ⟨definition, ⟨tags, -⟩, makes⟩ := built
  simp only [buildMapping, bind_eq_ok_iff] at makes
  obtain ⟨vertices, ofTags, edges, -, rest⟩ := makes
  cases rest
  rwa [names_eq_of_mapM (fun _ _ => tag_buildVertex) ofTags]

theorem nodup_edges (built : mapping.IsBuilt) : (mapping.edges.map (·.name)).Nodup := by
  obtain ⟨definition, ⟨-, names⟩, makes⟩ := built
  simp only [buildMapping, bind_eq_ok_iff] at makes
  obtain ⟨vertices, -, edges, ofEdges, rest⟩ := makes
  cases rest
  rwa [names_eq_of_mapM (fun _ _ => name_buildEdge) ofEdges]

end GraphMapping.IsBuilt

/-! ## Properties -/

theorem require_eq_ok_iff {ε : Type} {condition : Bool} {fault : ε} {u : Unit} :
    require condition fault = .ok u ↔ condition = true := by
  cases condition <;> simp [require]

theorem require_eq_error_iff {ε : Type} {condition : Bool} {fault other : ε} :
    require condition fault = .error other ↔ condition = false ∧ fault = other := by
  cases condition <;> simp [require]

/-- Properties pass their check only with names that differ from each other and from those seen. -/
theorem nodup_of_checkProperties {element : String} {seen : List String}
    {properties : List Property} (h : checkProperties element seen properties = .ok ()) :
    (properties.map (·.name)).Nodup ∧ ∀ property ∈ properties, property.name ∉ seen := by
  induction properties generalizing seen with
  | nil => exact ⟨List.nodup_nil, by simp⟩
  | cons property rest ih =>
    simp only [checkProperties, bind_eq_ok_iff, require_eq_ok_iff] at h
    obtain ⟨_, fresh, _, -, _, -, passed⟩ := h
    obtain ⟨distinct, unseen⟩ := ih passed
    have apart : ∀ other ∈ rest, other.name ≠ property.name := by
      intro other among same
      exact unseen other among (same ▸ List.mem_cons_self)
    refine ⟨List.nodup_cons.mpr ⟨by simpa using apart, distinct⟩, ?_⟩
    refine List.forall_mem_cons.mpr ⟨by simpa using fresh, fun other among known => ?_⟩
    exact unseen other among (List.mem_cons_of_mem _ known)

theorem nodup_of_buildProperties {definitions : List PropertyDefinition} {element : String}
    {settings : Settings} {named : List (String × PropertyTransform)} {properties : List Property}
    (h : buildProperties definitions element settings named = .ok properties) :
    (properties.map (·.name)).Nodup := by
  simp only [buildProperties, bind_eq_ok_iff] at h
  obtain ⟨built, -, _, passed, same⟩ := h
  cases same
  exact (nodup_of_checkProperties passed).1

namespace GraphMapping.IsBuilt

variable {mapping : GraphMapping}

/-- No two properties of a vertex mapping have one name. -/
theorem nodup_vertexProperties (built : mapping.IsBuilt) {v : VertexMapping}
    (vertex : v ∈ mapping.vertices) : (v.properties.map (·.name)).Nodup := by
  obtain ⟨definition, -, makes⟩ := built
  simp only [buildMapping, bind_eq_ok_iff] at makes
  obtain ⟨vertices, ofTags, edges, -, rest⟩ := makes
  cases rest
  obtain ⟨entry, -, made⟩ := exists_of_mem_mapM ofTags vertex
  simp only [buildVertex, bind_eq_ok_iff] at made
  obtain ⟨_, -, _, -, properties, checked, rest⟩ := made
  cases rest
  exact nodup_of_buildProperties checked

/-- No two properties of an edge mapping have one name. -/
theorem nodup_edgeProperties (built : mapping.IsBuilt) {e : EdgeMapping}
    (edge : e ∈ mapping.edges) : (e.properties.map (·.name)).Nodup := by
  obtain ⟨definition, -, makes⟩ := built
  simp only [buildMapping, bind_eq_ok_iff] at makes
  obtain ⟨vertices, -, edges, ofEdges, rest⟩ := makes
  cases rest
  obtain ⟨entry, -, made⟩ := exists_of_mem_mapM ofEdges edge
  simp only [buildEdge, bind_eq_ok_iff] at made
  obtain ⟨_, -, _, -, _, -, properties, checked, rest⟩ := made
  cases rest
  exact nodup_of_buildProperties checked

end GraphMapping.IsBuilt

/-! ## A library -/

/-- A property under its own name, as it is written. -/
def sampleEntry (name type : String) (more : List (Yaml.Value × Yaml.Value)) : Yaml.Value :=
  .map ([(.string "json", .string name), (.string "type", .string type)] ++ more)

/-- Books with a title and a price, readers with whatever is known of them, and who has lent
which book. -/
def libraryDefinition : Yaml.Value :=
  .map [
    (.string "tags", .map [
      (.string "Book", .map [
        (.string "from", .string "books"),
        (.string "properties", .list [
          sampleEntry "title" "string" [],
          sampleEntry "cents" "int" [(.string "transform", .string "price_normalize")]])]),
      (.string "Reader", .map [
        (.string "from", .string "readers"),
        (.string "dynamic_fields", .map [(.string "enabled", .bool true)])])]),
    (.string "edges", .map [
      (.string "Lent", .map [
        (.string "from", .string "loans"),
        (.string "source_tag", .string "Book"),
        (.string "target_tag", .string "Reader"),
        (.string "source_key", .string "book"),
        (.string "target_key", .string "reader"),
        (.string "properties", .list [sampleEntry "fee" "double" []])])])]

/-- The mapping of a library. -/
def libraryMapping : GraphMapping where
  vertices := [
    { tag := "Book"
      source := "books"
      key := "id"
      properties := [
        { name := "title", path := "title", type := "string" },
        { name := "cents"
          path := "cents"
          type := "int"
          transform := some { name := some "price_normalize" } }] },
    { tag := "Reader", source := "readers", key := "id", dynamicFields := { enabled := true } }]
  edges := [
    { name := "Lent"
      source := "loans"
      start := ⟨"Book", "book"⟩
      target := ⟨"Reader", "reader"⟩
      properties := [{ name := "fee", path := "fee", type := "double" }] }]

theorem isBuilt_libraryMapping : libraryMapping.IsBuilt :=
  isBuilt_of_mappingOf (show mappingOf libraryDefinition = .ok libraryMapping from rfl)

/-- A library with two books, of which one has no price, and one reader, who has lent a book. -/
def libraryDocument : Json :=
  .object [
    ("books", .array [
      .object [("id", .string "b1"), ("title", .string "Logic"), ("cents", .string "$ 19.50")],
      .object [("id", .string "b2"), ("title", .string "Proofs"), ("cents", .null)]]),
    ("readers", .array [.object [("id", .integer 7), ("name", .string "kim")]]),
    ("loans", .array [
      .object [("book", .string "b2"), ("reader", .integer 7), ("fee", .bool true)]])]

end DocGraph
