import DocGraph.Proofs.Schema.Removal

/-!
# Names of indexes

The name of an index is put together from the names of an element and of a property, with an
underscore in between. Both may have underscores of their own, so that the name does not always
tell where the first ends. Two indexes of a schema share a name in two ways only: a tag and an
edge type have the same name, or the name of one element goes on with what the property of the
other one begins with.

## Main definitions

* `IndexTarget`, `createdIndexes`: what the indexes of a schema are on.
* `IndexTarget.Clashes`: two indexes of one name, told by the names that they are made of.
* `NamesIndexes`: what the names of the indexes of a schema tell.

## Main results

* `IndexTarget.name_eq_iff`: when two names of indexes are the same.
* `namesIndexes_of_schema`: the indexes of a schema and their names.
* `not_forall_nodup_names`: two indexes of a schema can have one name.
-/

namespace DocGraph

/-! ## Names with a delimiter -/

/-- Where a delimiter may stand in both parts, one whole has two readings if the first part of one
goes on where that of the other ends. -/
theorem append_cons_eq_append_cons_iff {α : Type} {delimiter : α}
    {first second first' second' : List α} :
    first ++ delimiter :: second = first' ++ delimiter :: second' ↔
      (first = first' ∧ second = second') ∨
      (∃ between, first' = first ++ delimiter :: between ∧
        second = between ++ delimiter :: second') ∨
      ∃ between, first = first' ++ delimiter :: between ∧
        second' = between ++ delimiter :: second := by
  constructor
  · intro same
    rcases List.append_eq_append_iff.mp same with ⟨more, longer, rest⟩ | ⟨more, longer, rest⟩ <;>
      rcases List.cons_eq_append_iff.mp rest with ⟨rfl, tails⟩ | ⟨between, rfl, tail⟩
    · exact .inl ⟨by simp [longer], (List.cons.inj tails).2.symm⟩
    · exact .inr (.inl ⟨between, longer, tail⟩)
    · exact .inl ⟨by simp [longer], (List.cons.inj tails).2⟩
    · exact .inr (.inr ⟨between, longer, tail⟩)
  · rintro (⟨rfl, rfl⟩ | ⟨between, rfl, rfl⟩ | ⟨between, rfl, rfl⟩) <;> simp

/-- What an index is on. -/
structure IndexTarget where
  kind : ElementKind
  element : String
  column : String
  deriving DecidableEq, Repr

namespace IndexTarget

def name (target : IndexTarget) : String := indexName target.element target.column

/-- The name of the second element goes on where that of the first one ends, with what the first
column begins with. -/
def Precedes (first second : IndexTarget) : Prop :=
  ∃ between : String, second.element = s!"{first.element}_{between}" ∧
    first.column = s!"{between}_{second.column}"

/-- Two indexes on columns of one name, of a tag and an edge type of one name, or two of which one
precedes the other. -/
def Clashes (first second : IndexTarget) : Prop :=
  (first.kind ≠ second.kind ∧ first.element = second.element ∧ first.column = second.column) ∨
    first.Precedes second ∨ second.Precedes first

theorem toList_name (target : IndexTarget) :
    target.name.toList = target.element.toList ++ '_' :: target.column.toList ++ "_idx".toList := by
  simp [name, indexName, toString]

theorem precedes_iff {first second : IndexTarget} :
    first.Precedes second ↔ ∃ between,
      second.element.toList = first.element.toList ++ '_' :: between ∧
        first.column.toList = between ++ '_' :: second.column.toList := by
  constructor
  · rintro ⟨between, element, column⟩
    exact ⟨between.toList, by simp [element, toString], by simp [column, toString]⟩
  · rintro ⟨between, element, column⟩
    refine ⟨String.ofList between, String.toList_inj.mp ?_, String.toList_inj.mp ?_⟩
    · simp [element, toString]
    · simp [column, toString]

/-- Indexes have one name if they are on columns of one name of elements of one name, or if one
precedes the other. -/
theorem name_eq_iff {first second : IndexTarget} :
    first.name = second.name ↔
      (first.element = second.element ∧ first.column = second.column) ∨
        first.Precedes second ∨ second.Precedes first := by
  rw [← String.toList_inj, toList_name, toList_name, List.append_left_inj,
    append_cons_eq_append_cons_iff, String.toList_inj, String.toList_inj, precedes_iff,
    precedes_iff]

theorem name_eq_iff_clashes {first second : IndexTarget} (different : first ≠ second) :
    first.name = second.name ↔ first.Clashes second := by
  have kinds : first.element = second.element ∧ first.column = second.column →
      first.kind ≠ second.kind := by
    rintro ⟨element, column⟩ kind
    cases first
    cases second
    simp_all
  rw [name_eq_iff, Clashes]
  exact or_congr_left ⟨fun same => ⟨kinds same, same⟩, fun ⟨_, same⟩ => same⟩

/-- The name of an element does not go on where it ends. -/
theorem not_precedes_of_element_eq {first second : IndexTarget}
    (element : first.element = second.element) : ¬ first.Precedes second := by
  rw [precedes_iff]
  rintro ⟨between, longer, -⟩
  simp [element] at longer

theorem not_clashes_of_same_element {first second : IndexTarget} (kind : first.kind = second.kind)
    (element : first.element = second.element) : ¬ first.Clashes second := by
  rintro (⟨kinds, -⟩ | precedes | precedes)
  · exact kinds kind
  · exact not_precedes_of_element_eq element precedes
  · exact not_precedes_of_element_eq element.symm precedes

end IndexTarget

/-! ## Indexes of a schema -/

def SchemaStatement.target? : SchemaStatement → Option IndexTarget
  | .createIndex kind element column _ => some ⟨kind, element, column⟩
  | _ => none

/-- What the indexes are on that statements create, in order. -/
def createdIndexes (statements : List SchemaStatement) : List IndexTarget :=
  statements.filterMap SchemaStatement.target?

/-- What the names of the indexes tell that statements create. -/
structure NamesIndexes (statements : List SchemaStatement) : Prop where
  /-- No index is created twice. -/
  once : (createdIndexes statements).Nodup
  /-- All names are written as they are. -/
  written : ∀ kind element column length,
    .createIndex kind element column length ∈ statements →
      (SchemaStatement.createIndex kind element column length).text =
        s!"CREATE {kind.keyword} INDEX IF NOT EXISTS {element}_{column}_idx " ++
          s!"ON {element}({column}{partText length});"
  same_iff : ∀ first ∈ createdIndexes statements, ∀ second ∈ createdIndexes statements,
    first ≠ second → (first.name = second.name ↔ first.Clashes second)
  /-- Indexes of one element are told apart. -/
  apart : ∀ first ∈ createdIndexes statements, ∀ second ∈ createdIndexes statements,
    first ≠ second → first.kind = second.kind → first.element = second.element →
      first.name ≠ second.name
  nodup_iff : ((createdIndexes statements).map IndexTarget.name).Nodup ↔
    (createdIndexes statements).Pairwise fun first second => ¬ first.Clashes second

theorem nodup_map_name_iff {targets : List IndexTarget} (once : targets.Nodup) :
    (targets.map IndexTarget.name).Nodup ↔
      targets.Pairwise fun first second => ¬ first.Clashes second := by
  rw [List.Nodup, List.pairwise_map]
  constructor
  · intro names
    exact (once.and names).imp fun ⟨different, apart⟩ clash =>
      apart ((IndexTarget.name_eq_iff_clashes different).mpr clash)
  · intro clashes
    exact (once.and clashes).imp fun ⟨different, apart⟩ same =>
      apart ((IndexTarget.name_eq_iff_clashes different).mp same)

section

variable {mapping : GraphMapping} {elements : List Element}

theorem GraphMapping.IsBuilt.nodup_properties (built : mapping.IsBuilt) {readout : Readout}
    (mem : readout ∈ mapping.readouts) : (readout.properties.map (·.name)).Nodup := by
  rcases List.mem_append.mp mem with ofVertex | ofEdge
  · obtain ⟨v, vertex, rfl⟩ := List.mem_map.mp ofVertex
    exact built.nodup_vertexProperties vertex
  · obtain ⟨e, edge, rfl⟩ := List.mem_map.mp ofEdge
    exact built.nodup_edgeProperties edge

/-- What the indexes of an element are on. -/
def Readout.targets (readout : Readout) : List IndexTarget :=
  (readout.properties.filter Property.wantsIndex).map fun property =>
    ⟨readout.kind, readout.name, property.name⟩

theorem createdIndexes_of_schemaElements (h : schemaElements mapping = .ok elements) :
    createdIndexes (elements.map .create ++ elements.flatMap Element.indexes) =
      mapping.readouts.flatMap Readout.targets := by
  have creates : createdIndexes (elements.map .create) = [] := by
    rw [createdIndexes, List.filterMap_map]
    exact List.filterMap_eq_nil_iff.mpr fun _ _ => rfl
  have each (readout : Readout) : createdIndexes readout.indexes = readout.targets := by
    rw [createdIndexes, Readout.indexes, List.filterMap_map, Readout.targets,
      ← List.filterMap_eq_map]
    rfl
  rw [createdIndexes, List.filterMap_append, ← createdIndexes, ← createdIndexes, creates,
    List.nil_append, indexes_of_schemaElements h, createdIndexes, List.filterMap_flatMap]
  exact List.flatMap_congr fun readout _ => each readout

theorem nodup_targets (built : mapping.IsBuilt) :
    (mapping.readouts.flatMap Readout.targets).Nodup := by
  rw [List.nodup_flatMap]
  constructor
  · intro readout mem
    have wanted := (List.filter_sublist (p := Property.wantsIndex)).map (·.name)
      |>.nodup (built.nodup_properties mem)
    refine List.Nodup.of_map IndexTarget.column ?_
    rwa [Readout.targets, List.map_map]
  · have elements := List.pairwise_map.mp built.nodup_readouts
    refine elements.imp fun {first second} different => ?_
    intro target ofFirst ofSecond
    obtain ⟨_, -, rfl⟩ := List.mem_map.mp ofFirst
    obtain ⟨_, -, same⟩ := List.mem_map.mp ofSecond
    cases first
    cases second
    simp_all

end

/-- Every index of a schema is created once, and its name is written as it is. Two of them have one
name in the two ways of a clash only, so that all names differ if there is no clash, and those for
one element always do. -/
theorem namesIndexes_of_schema {mapping : GraphMapping} (built : mapping.IsBuilt)
    {statements : List SchemaStatement} (h : schemaStatements mapping true = .ok statements) :
    NamesIndexes statements := by
  obtain ⟨elements, declared, only⟩ := bind_eq_ok_iff.mp h
  obtain rfl : elements.map .create ++ elements.flatMap Element.indexes = statements := by
    cases only
    rfl
  have once : (createdIndexes
      (elements.map .create ++ elements.flatMap Element.indexes)).Nodup := by
    rw [createdIndexes_of_schemaElements declared]
    exact nodup_targets built
  refine ⟨once, ?_, ?_, ?_, nodup_map_name_iff once⟩
  · intro kind element column length mem
    have index : .createIndex kind element column length ∈ elements.flatMap Element.indexes := by
      simpa using mem
    obtain ⟨plain, plain'⟩ := isPlainIdentifier_of_index declared index
    exact text_createIndex plain plain'
  · intro first _ second _ different
    exact IndexTarget.name_eq_iff_clashes different
  · intro first _ second _ different kind element same
    have clash := (IndexTarget.name_eq_iff_clashes different).mp same
    exact IndexTarget.not_clashes_of_same_element kind element clash

theorem namesIndexes_of_schema_shelf :
    shelfMapping.IsBuilt ∧ ∃ statements, schemaStatements shelfMapping true = .ok statements ∧
      (createdIndexes statements).map IndexTarget.name =
        ["Book_title_idx", "Book_pages_idx", "Lent_fee_idx"] ∧ NamesIndexes statements := by
  have named : ((schemaStatements shelfMapping true).toOption.map fun statements =>
      (createdIndexes statements).map IndexTarget.name) =
        some ["Book_title_idx", "Book_pages_idx", "Lent_fee_idx"] := by
    decide +kernel
  obtain ⟨statements, found, names⟩ := Option.map_eq_some_iff.mp named
  rw [toOption_eq_some_iff] at found
  exact ⟨isBuilt_shelfMapping, statements, found, names,
    namesIndexes_of_schema isBuilt_shelfMapping found⟩

/-- Users with the cities that they come from, and homes of users with their cities. -/
def homesDefinition : Yaml.Value :=
  let cities (source property : String) : Yaml.Value := .map [
    (.string "from", .string source),
    (.string "properties", .list [
      sampleEntry property "string" [(.string "index", .bool true)]])]
  .map [(.string "tags", .map [
    (.string "User", cities "users" "home_city"), (.string "User_home", cities "homes" "city")])]

/-- The mapping of users and their homes. -/
def homesMapping : GraphMapping where
  vertices := [
    { tag := "User"
      source := "users"
      key := "id"
      properties := [
        { name := "home_city", path := "home_city", type := "string", indexable := true }] },
    { tag := "User_home"
      source := "homes"
      key := "id"
      properties := [{ name := "city", path := "city", type := "string", indexable := true }] }]

theorem isBuilt_homesMapping : homesMapping.IsBuilt :=
  isBuilt_of_mappingOf (show mappingOf homesDefinition = .ok homesMapping from rfl)

/-- Indexes on the columns of two tags can have one name. -/
theorem not_forall_nodup_names :
    ¬ ∀ (mapping : GraphMapping) (statements : List SchemaStatement), mapping.IsBuilt →
      schemaStatements mapping true = .ok statements →
        ((createdIndexes statements).map IndexTarget.name).Nodup := by
  intro always
  have named : ((schemaStatements homesMapping true).toOption.map fun statements =>
      (createdIndexes statements).map IndexTarget.name) =
        some ["User_home_city_idx", "User_home_city_idx"] := by
    decide +kernel
  obtain ⟨statements, found, names⟩ := Option.map_eq_some_iff.mp named
  have distinct := always homesMapping statements isBuilt_homesMapping
    (toOption_eq_some_iff.mp found)
  simp [names] at distinct

end DocGraph
