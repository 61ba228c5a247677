import DocGraph.Proofs.Schema.Declaration

/-!
# Indexes and their removal

A schema with indexes is the schema without them, and behind it one index for every property that
asks for one and is of a type that can have one. What is declared can be removed again. The
statements that remove a mapping are found without checking it, and there is one for every index and
every element that was declared, indexes first.

## Main definitions

* `Property.wantsIndex`, `Readout.indexes`: the indexes that a mapping asks for.
* `partText`: the length of an index, as it is written.
* `SchemaStatement.RefersTo`: an index on a column of an element that is there already.
* `CoveredByCleanup`: a schema with what removes it.

## Main results

* `indexes_of_makes`: the indexes of an element are those that its properties ask for.
* `text_createIndex`, `text_dropIndex`: the texts of statements about an index.
* `text_eq_text_drop_iff`: the text of a statement that removes an element belongs to no other one.
* `coveredByCleanup_of_schema`: every schema with indexes can be removed.
-/

namespace DocGraph

/-! ## Types that can have an index -/

def ValueType.isNumeric (type : ValueType) : Bool := type.isInteger || type == .double

theorem baseOfText_of_name (type : ValueType) {rest : List Char}
    (h : rest.takeWhile (· != '(') = []) :
    ColumnType.baseOfText (String.ofList (type.name.toList ++ rest)) = type.name := by
  have whole : type.name.toList.all (· != '(') = true := by cases type <;> decide +kernel
  rw [ColumnType.baseOfText, String.toList_ofList,
    List.takeWhile_append_of_pos (List.all_eq_true.mp whole), h, List.append_nil,
    String.ofList_toList]
  cases type <;> decide +kernel

/-- A written type has its category from its name, whatever its length. -/
theorem baseOfText_text {type : ValueType} {requested : Option Int} {written : ColumnType}
    (h : ColumnType.ofValueType type requested = .ok written) :
    ColumnType.baseOfText written.text = type.name := by
  unfold ColumnType.ofValueType at h
  split at h
  next =>
    obtain rfl := Except.ok.inj h
    have plain := baseOfText_of_name type (List.takeWhile_nil : [].takeWhile (· != '(') = [])
    simpa [ColumnType.text] using plain
  next =>
    dsimp only at h
    split at h
    next => cases h
    next =>
      obtain rfl := Except.ok.inj h
      have chars (length : Int) : (ColumnType.sized type length).text =
          String.ofList (type.name.toList ++ '(' :: ((toString length).toList ++ [')'])) := by
        rw [← String.toList_inj]
        simp [ColumnType.text, toString]
      rw [chars]
      exact baseOfText_of_name type rfl

section

variable {type : ValueType} {requested : Option Int} {written : ColumnType}

theorem isNumericText_text (h : ColumnType.ofValueType type requested = .ok written) :
    ColumnType.isNumericText written.text = type.isNumeric := by
  rw [ColumnType.isNumericText, baseOfText_text h]
  cases type <;> rfl

theorem isStringText_text (h : ColumnType.ofValueType type requested = .ok written) :
    ColumnType.isStringText written.text = type.isString := by
  rw [ColumnType.isStringText, baseOfText_text h]
  cases type <;> decide +kernel

end

/-! ## Indexes that are asked for -/

/-- A property asks for an index, and its type is one of numbers or one of strings. -/
def Property.wantsIndex (property : Property) : Bool :=
  property.indexable &&
    (ValueType.resolve? property.type).any fun type => type.isNumeric || type.isString

/-- How much of a property is indexed: a string of fixed length up to this length. -/
def Property.indexLength (property : Property) : Option Int :=
  if (ValueType.resolve? property.type).any ValueType.isString then
    countingLength property.maxLength
  else none

/-- The indexes that are asked for an element, in the order of its properties. -/
def Readout.indexes (readout : Readout) : List SchemaStatement :=
  (readout.properties.filter Property.wantsIndex).map fun property =>
    .createIndex readout.kind readout.name property.name property.indexLength

theorem isIndexed_of_columnOf {settings : Settings} {property : Property} {column : Column}
    (h : columnOf settings property = .ok column) :
    column.isIndexed = property.wantsIndex ∧ column.indexLength = property.indexLength := by
  simp only [columnOf, declaredType, bind_eq_ok_iff, mapError_eq_ok_iff] at h
  obtain ⟨written, ⟨type, known, fits⟩, built⟩ := h
  cases built
  have resolves := resolveType_eq_ok_iff.mp known
  constructor
  · simp only [Column.isIndexed, Property.wantsIndex, isNumericText_text fits,
      isStringText_text fits, resolves, Option.any_some]
  · simp only [Column.indexLength, Property.indexLength, isStringText_text fits, resolves,
      Option.any_some]

/-- The indexes of an element are those that its properties ask for. -/
theorem indexes_of_makes {settings : Settings} {readout : Readout} {element : Element}
    (h : readout.Makes settings element) : element.indexes = readout.indexes := by
  have same (property : Property) (column : Column)
      (made : columnOf settings property = .ok column) :
      property.wantsIndex = true ↔ column.isIndexed = true := by
    rw [(isIndexed_of_columnOf made).1]
  have wanted : List.Forall₂ (fun property column => columnOf settings property = .ok column)
      (readout.properties.filter Property.wantsIndex) (element.columns.filter Column.isIndexed) :=
    List.rel_filter (fun property column made => same property column made) h.columns
  refine (map_eq_map_of_forall₂ (wanted.imp fun property column made => ?_)).symm
  rw [(isFor_of_columnOf made).1, (isIndexed_of_columnOf made).2, h.kind, h.name]

/-! ## Texts of statements that remove elements -/

/-- The text of a statement that removes an element belongs to no other statement. -/
theorem text_eq_text_drop_iff {statement : SchemaStatement} {kind : ElementKind} {name : String} :
    statement.text = (SchemaStatement.drop kind name).text ↔ statement = .drop kind name := by
  refine ⟨fun h => ?_, fun h => h ▸ rfl⟩
  have chars := congrArg String.toList h
  cases statement with
  | create element => cases kind <;> simp [SchemaStatement.text, toString] at chars
  | createIndex other element column length =>
    cases kind <;> simp [SchemaStatement.text, toString] at chars
  | dropIndex other element column =>
    cases kind <;> cases other <;> simp [SchemaStatement.text, ElementKind.keyword, toString] at chars
  | drop other another =>
    have same : other = kind ∧ writeName another = writeName name := by
      cases kind <;> cases other <;>
        simp [SchemaStatement.text, ElementKind.keyword, toString] at chars
      · exact ⟨rfl, String.toList_inj.mp chars⟩
      · exact ⟨rfl, String.toList_inj.mp chars⟩
    obtain ⟨rfl, written⟩ := same
    rw [writeName_injective written]

theorem count_text_drop (statements : List SchemaStatement) (kind : ElementKind) (name : String) :
    (statements.map SchemaStatement.text).count (SchemaStatement.drop kind name).text =
      statements.count (.drop kind name) := by
  rw [List.count, List.count, List.countP_map]
  refine List.countP_congr fun statement _ => ?_
  simp [text_eq_text_drop_iff]

/-! ## Texts of statements about indexes -/

/-- The length of the part of a column that is indexed, as it stands behind the column. -/
def partText (length : Option Int) : String := length.elim "" fun length => s!"({length})"

section

variable {kind : ElementKind} {element column : String} {length : Option Int}

theorem writeName_indexName (plain : isPlainIdentifier element = true)
    (plain' : isPlainIdentifier column = true) :
    writeName (indexName element column) = s!"{element}_{column}_idx" :=
  writeName_of_isPlainIdentifier (isPlainIdentifier_indexName plain plain')

theorem text_createIndex (plain : isPlainIdentifier element = true)
    (plain' : isPlainIdentifier column = true) :
    (SchemaStatement.createIndex kind element column length).text =
      s!"CREATE {kind.keyword} INDEX IF NOT EXISTS {element}_{column}_idx " ++
        s!"ON {element}({column}{partText length});" := by
  simp only [SchemaStatement.text, writeName_indexName plain plain',
    writeName_of_isPlainIdentifier plain, writeName_of_isPlainIdentifier plain']
  cases length <;> simp [partText, toString, String.append_assoc]

theorem text_dropIndex (plain : isPlainIdentifier element = true)
    (plain' : isPlainIdentifier column = true) :
    (SchemaStatement.dropIndex kind element column).text =
      s!"DROP {kind.keyword} INDEX IF EXISTS {element}_{column}_idx;" := by
  simp only [SchemaStatement.text, writeName_indexName plain plain']
  simp [toString, String.append_assoc]

/-- Indexes are created on elements and columns whose names may be declared. -/
theorem isPlainIdentifier_of_index {mapping : GraphMapping} {elements : List Element}
    (h : schemaElements mapping = .ok elements)
    (index : .createIndex kind element column length ∈ elements.flatMap Element.indexes) :
    isPlainIdentifier element = true ∧ isPlainIdentifier column = true := by
  obtain ⟨declared, among, index⟩ := List.mem_flatMap.mp index
  obtain ⟨readout, -, declares⟩ := exists_left_of_forall₂ (declares_of_schemaElements h) among
  obtain ⟨c, indexed, same⟩ := List.mem_map.mp index
  cases same
  have declarable := declares.columnsDeclarable c (List.mem_of_mem_filter indexed)
  exact ⟨isPlainIdentifier_of_isDeclarable declares.declarable,
    isPlainIdentifier_of_isDeclarable declarable⟩

end

/-! ## What is declared, and what removes it -/

/-- An index is on a column of an element of its kind that is created among earlier statements. -/
def SchemaStatement.RefersTo (earlier : List SchemaStatement) : SchemaStatement → Prop
  | .createIndex kind element column _ => ∃ created : Element, .create created ∈ earlier ∧
      created.kind = kind ∧ created.name = element ∧ column ∈ created.columns.map (·.name)
  | _ => True

/-- Statements declare a mapping with its indexes, and what is declared can be removed. -/
structure CoveredByCleanup (mapping : GraphMapping) (statements : List SchemaStatement) : Prop where
  /-- The indexes, in the order of the properties that ask for them, follow all elements. -/
  parts : ∃ declarations indexes, schemaStatements mapping false = .ok declarations ∧
    indexStatements mapping = .ok indexes ∧ statements = declarations ++ indexes ∧
    (∀ statement ∈ declarations, ∃ element, statement = .create element) ∧
    indexes = mapping.readouts.flatMap Readout.indexes
  refersTo : ∀ earlier statement later, statements = earlier ++ statement :: later →
    statement.RefersTo earlier
  /-- An index is removed under the kind and the written name with which it was created. -/
  indexes_removed : ∀ kind element column length,
    .createIndex kind element column length ∈ statements →
      .dropIndex kind element column ∈ cleanupStatements mapping ∧
      (SchemaStatement.createIndex kind element column length).text =
        s!"CREATE {kind.keyword} INDEX IF NOT EXISTS {element}_{column}_idx " ++
          s!"ON {element}({column}{partText length});" ∧
      s!"DROP {kind.keyword} INDEX IF EXISTS {element}_{column}_idx;" ∈
        (cleanupStatements mapping).map SchemaStatement.text
  /-- A single statement removes an element, by its text. -/
  elements_removed : ∀ element : Element, .create element ∈ statements →
    ((cleanupStatements mapping).map SchemaStatement.text).count
      (SchemaStatement.drop element.kind element.name).text = 1
  indexes_first : ∃ first last, cleanupStatements mapping = first ++ last ∧
    (∀ statement ∈ first, ∃ kind element column, statement = .dropIndex kind element column) ∧
    ∀ statement ∈ last, ∃ kind name, statement = .drop kind name

section

variable {mapping : GraphMapping} {elements : List Element}

theorem indexes_of_schemaElements (h : schemaElements mapping = .ok elements) :
    elements.flatMap Element.indexes = mapping.readouts.flatMap Readout.indexes := by
  have same : mapping.readouts.map Readout.indexes = elements.map Element.indexes :=
    map_eq_map_of_forall₂ ((makes_of_schemaElements h).imp fun _ _ made =>
      (indexes_of_makes made).symm)
  rw [List.flatMap_def, List.flatMap_def, same]

/-- Whatever follows the elements of a schema may refer to them. -/
theorem refersTo_of_mem_indexes {element : Element} (among : element ∈ elements)
    {statement : SchemaStatement} (index : statement ∈ element.indexes)
    (indexes : List SchemaStatement) :
    statement.RefersTo (elements.map .create ++ indexes) := by
  obtain ⟨column, indexed, rfl⟩ := List.mem_map.mp index
  refine ⟨element, List.mem_append_left _ (List.mem_map_of_mem among), rfl, rfl, ?_⟩
  exact List.mem_map_of_mem (List.mem_of_mem_filter indexed)

theorem refersTo_of_schema {earlier later : List SchemaStatement} {statement : SchemaStatement}
    (h : elements.map SchemaStatement.create ++ elements.flatMap Element.indexes =
      earlier ++ statement :: later) : statement.RefersTo earlier := by
  rcases List.append_eq_append_iff.mp h with ⟨front, split, rest⟩ | ⟨back, split, rest⟩
  · have index : statement ∈ elements.flatMap Element.indexes := by simp [rest]
    obtain ⟨element, among, index⟩ := List.mem_flatMap.mp index
    rw [split]
    exact refersTo_of_mem_indexes among index front
  · -- Among the elements there are no indexes.
    cases back with
    | nil =>
      have index : statement ∈ elements.flatMap Element.indexes := by
        rw [← List.nil_append (elements.flatMap _), ← rest]
        exact List.mem_cons_self
      obtain ⟨element, among, index⟩ := List.mem_flatMap.mp index
      rw [List.append_nil] at split
      simpa [split] using refersTo_of_mem_indexes among index []
    | cons other back =>
      obtain rfl := (List.cons.inj rest).1
      have create : statement ∈ elements.map SchemaStatement.create := by simp [split]
      obtain ⟨element, -, rfl⟩ := List.mem_map.mp create
      trivial

/-- The statements that remove a mapping, found element by element. -/
theorem cleanupStatements_eq (mapping : GraphMapping) :
    cleanupStatements mapping =
      (mapping.readouts.flatMap fun readout => readout.properties.map fun property =>
        .dropIndex readout.kind readout.name property.name) ++
      mapping.readouts.map fun readout => .drop readout.kind readout.name := by
  simp only [cleanupStatements, GraphMapping.readouts, List.flatMap_append, List.flatMap_map,
    List.map_append, List.map_map, List.append_assoc]
  rfl

theorem dropIndex_of_mem_indexes {readout : Readout} (mem : readout ∈ mapping.readouts)
    {kind : ElementKind} {element column : String} {length : Option Int}
    (index : .createIndex kind element column length ∈ readout.indexes) :
    .dropIndex kind element column ∈ cleanupStatements mapping := by
  obtain ⟨property, wanted, same⟩ := List.mem_map.mp index
  cases same
  rw [cleanupStatements_eq]
  refine List.mem_append_left _ (List.mem_flatMap.mpr ⟨readout, mem, ?_⟩)
  exact List.mem_map_of_mem (List.mem_of_mem_filter wanted)

/-- In a built mapping, every element is removed once. -/
theorem count_drop_eq_one (built : mapping.IsBuilt) {readout : Readout}
    (mem : readout ∈ mapping.readouts) :
    (cleanupStatements mapping).count (.drop readout.kind readout.name) = 1 := by
  have indexes : SchemaStatement.drop readout.kind readout.name ∉
      mapping.readouts.flatMap fun readout => readout.properties.map fun property =>
        .dropIndex readout.kind readout.name property.name := by
    simp
  have drops : (mapping.readouts.map fun readout =>
      SchemaStatement.drop readout.kind readout.name).Nodup := by
    have injective : Function.Injective fun pair : ElementKind × String =>
        SchemaStatement.drop pair.1 pair.2 := by
      rintro ⟨_, _⟩ ⟨_, _⟩ ⟨⟩
      rfl
    have distinct := built.nodup_readouts.map injective
    rwa [List.map_map] at distinct
  rw [cleanupStatements_eq, List.count_append, List.count_eq_zero.mpr indexes, zero_add]
  exact List.count_eq_one_of_mem drops (List.mem_map.mpr ⟨readout, mem, rfl⟩)

end

/-- A schema with indexes is the schema without them, and then one index for every property that
asks for one and can have one, on a column of an element that is created before. What removes the
mapping has every index that was created, then every element, each of them once. -/
theorem coveredByCleanup_of_schema {mapping : GraphMapping} (built : mapping.IsBuilt)
    {statements : List SchemaStatement} (h : schemaStatements mapping true = .ok statements) :
    CoveredByCleanup mapping statements := by
  obtain ⟨elements, declared, made⟩ := bind_eq_ok_iff.mp h
  obtain rfl : elements.map .create ++ elements.flatMap Element.indexes = statements := by
    cases made
    rfl
  have declares := makes_of_schemaElements declared
  refine ⟨⟨elements.map .create, elements.flatMap Element.indexes, ?_, ?_, rfl, ?_,
    indexes_of_schemaElements declared⟩, fun _ _ _ => refersTo_of_schema, ?_, ?_, ?_⟩
  · simp [schemaStatements, declared, bind, Except.bind, pure, Except.pure]
  · simp [indexStatements, declared, bind, Except.bind, pure, Except.pure]
  · intro statement mem
    obtain ⟨element, -, rfl⟩ := List.mem_map.mp mem
    exact ⟨element, rfl⟩
  · intro kind element column length mem
    have index : .createIndex kind element column length ∈ elements.flatMap Element.indexes := by
      simpa using mem
    obtain ⟨plain, plain'⟩ := isPlainIdentifier_of_index declared index
    rw [indexes_of_schemaElements declared] at index
    obtain ⟨readout, ofMapping, index⟩ := List.mem_flatMap.mp index
    have removed := dropIndex_of_mem_indexes ofMapping index
    exact ⟨removed, text_createIndex plain plain',
      List.mem_map.mpr ⟨_, removed, text_dropIndex plain plain'⟩⟩
  · intro element create
    have among : element ∈ elements := by simpa [Element.indexes] using create
    obtain ⟨readout, ofMapping, makes⟩ := exists_left_of_forall₂ declares among
    rw [count_text_drop, makes.kind, makes.name]
    exact count_drop_eq_one built ofMapping
  · rw [cleanupStatements_eq]
    refine ⟨_, _, rfl, ?_, ?_⟩
    · intro statement mem
      obtain ⟨readout, -, mem⟩ := List.mem_flatMap.mp mem
      obtain ⟨property, -, rfl⟩ := List.mem_map.mp mem
      exact ⟨_, _, _, rfl⟩
    · intro statement mem
      obtain ⟨readout, -, rfl⟩ := List.mem_map.mp mem
      exact ⟨_, _, rfl⟩

/-- Books that can be found by their titles and pages, but not by the day they came, and loans that
can be found by their fees. -/
def shelfDefinition : Yaml.Value :=
  let indexed := (.string "index", .bool true)
  .map [
    (.string "tags", .map [
      (.string "Book", .map [
        (.string "from", .string "books"),
        (.string "properties", .list [
          sampleEntry "title" "string" [indexed, (.string "max_length", .integer 20)],
          sampleEntry "pages" "int" [indexed],
          sampleEntry "since" "date" [indexed],
          sampleEntry "note" "string" []])])]),
    (.string "edges", .map [
      (.string "Lent", .map [
        (.string "from", .string "loans"),
        (.string "source_tag", .string "Book"),
        (.string "target_tag", .string "Book"),
        (.string "source_key", .string "book"),
        (.string "target_key", .string "next"),
        (.string "properties", .list [sampleEntry "fee" "float" [indexed]])])])]

/-- The mapping of a shelf. -/
def shelfMapping : GraphMapping where
  vertices := [
    { tag := "Book"
      source := "books"
      key := "id"
      properties := [
        { name := "title", path := "title", type := "string", indexable := true
          maxLength := some 20 },
        { name := "pages", path := "pages", type := "int", indexable := true },
        { name := "since", path := "since", type := "date", indexable := true },
        { name := "note", path := "note", type := "string" }] }]
  edges := [
    { name := "Lent"
      source := "loans"
      start := ⟨"Book", "book"⟩
      target := ⟨"Book", "next"⟩
      properties := [{ name := "fee", path := "fee", type := "float", indexable := true }] }]

theorem isBuilt_shelfMapping : shelfMapping.IsBuilt :=
  isBuilt_of_mappingOf (show mappingOf shelfDefinition = .ok shelfMapping from rfl)

example : shelfMapping.readouts.flatMap Readout.indexes =
    [.createIndex .tag "Book" "title" (some 20), .createIndex .tag "Book" "pages" none,
      .createIndex .edge "Lent" "fee" none] := by decide +kernel

theorem coveredByCleanup_of_schema_shelf :
    shelfMapping.IsBuilt ∧ ∃ statements, schemaStatements shelfMapping true = .ok statements ∧
      statements.length = 5 ∧ CoveredByCleanup shelfMapping statements := by
  have declared : ((schemaStatements shelfMapping true).toOption.map List.length) = some 5 := by
    decide +kernel
  obtain ⟨statements, found, length⟩ := Option.map_eq_some_iff.mp declared
  rw [toOption_eq_some_iff] at found
  exact ⟨isBuilt_shelfMapping, statements, found, length,
    coveredByCleanup_of_schema isBuilt_shelfMapping found⟩

end DocGraph
