import DocGraph.Proofs.Schema.Merging
import DocGraph.Proofs.Schema.Removal

/-!
# Lengths of indexes

An index on a string takes as much of it as its declaration says, while the column is as long as
its type says. Both come from the same declaration. They differ where a length is declared that is
not positive, because the type falls back to a default there, and where declarations with
different lengths are merged: the type is that of the first, and the length is the greatest.

## Main definitions

* `Assembled`: elements that are declared for mappings, and what is merged of them.
* `declarations`, `declaredLengths`: what is declared for a column, and with which lengths.
* `Column.SumsUp`: what a merged column keeps of its declarations.

## Main results

* `sumsUp_of_assembled`: every column of an assembled element sums up its declarations.
* `indexFits_iff`: an index fits its column if the greatest of the declared lengths does.
* `not_forall_indexesFit`: there are indexes that do not fit.
-/

namespace DocGraph

/-! ## Assembled elements -/

/-- An element is declared for what a mapping has, or merged from two that are assembled. The
declarations that it is put together from are listed in order. -/
inductive Assembled : List Element → Element → Prop
  | vertex {mapping : GraphMapping} {settings : Settings} {v : VertexMapping} {element : Element}
      (built : mapping.IsBuilt) (among : v ∈ mapping.vertices)
      (made : Element.ofVertex settings v = .ok element) : Assembled [element] element
  | edge {mapping : GraphMapping} {settings : Settings} {e : EdgeMapping} {element : Element}
      (built : mapping.IsBuilt) (among : e ∈ mapping.edges)
      (made : Element.ofEdge settings e = .ok element) : Assembled [element] element
  | merge {parts others : List Element} {first second merged : Element}
      (ofFirst : Assembled parts first) (ofSecond : Assembled others second)
      (made : first.merge second = .ok merged) : Assembled (parts ++ others) merged

/-- What elements declare for the column of a name, in order. -/
def declarations (parts : List Element) (name : String) : List Column :=
  parts.filterMap fun part => columnNamed name part.columns

/-- The lengths that are declared for the column of a name. -/
def declaredLengths (parts : List Element) (name : String) : List Int :=
  (declarations parts name).filterMap (·.fixedLength)

theorem declarations_append (parts others : List Element) (name : String) :
    declarations (parts ++ others) name = declarations parts name ++ declarations others name :=
  List.filterMap_append

/-- Columns that are declared have the names of the properties they are declared for. -/
theorem names_of_columnOf {settings : Settings} {properties : List Property}
    {columns : List Column} (h : properties.mapM (columnOf settings) = .ok columns) :
    columns.map (·.name) = properties.map (·.name) := by
  have each := ((mapM_eq_ok_iff _ _ _).mp h).imp fun _ _ made => (isFor_of_columnOf made).1
  exact map_eq_map_of_forall₂ each.flip

section

variable {parts : List Element} {element : Element}

theorem nodup_of_assembled (h : Assembled parts element) :
    (element.columns.map (·.name)).Nodup := by
  induction h with
  | vertex built among made =>
    exact names_of_columnOf (ofVertex_eq_ok made).2.2 ▸ built.nodup_vertexProperties among
  | edge built among made =>
    exact names_of_columnOf (ofEdge_eq_ok made).2.2 ▸ built.nodup_edgeProperties among
  | merge ofFirst ofSecond made first second =>
    obtain ⟨-, -, -, -, columns⟩ := merge_eq_ok made
    exact columns ▸ nodup_foldl_mergeColumn first _

/-- Columns of the parts are declared for properties. -/
theorem exists_columnOf_of_assembled (h : Assembled parts element) :
    ∀ part ∈ parts, ∀ column ∈ part.columns, ∃ settings property,
      columnOf settings property = .ok column := by
  have single {settings : Settings} {properties : List Property} {element : Element}
      (made : properties.mapM (columnOf settings) = .ok element.columns) :
      ∀ part ∈ [element], ∀ column ∈ part.columns, ∃ settings property,
        columnOf settings property = .ok column := by
    intro part mem column declared
    obtain rfl := List.mem_singleton.mp mem
    obtain ⟨property, -, made⟩ := exists_of_mem_mapM made declared
    exact ⟨settings, property, made⟩
  induction h with
  | vertex built among made => exact single (ofVertex_eq_ok made).2.2
  | edge built among made => exact single (ofEdge_eq_ok made).2.2
  | merge ofFirst ofSecond made first second =>
    intro part mem
    exact (List.mem_append.mp mem).elim (first part) (second part)

end

/-! ## What a merged column keeps -/

/-- A column has the type of the first of its declarations, and the greatest of their lengths if
that is positive. -/
structure Column.SumsUp (declared : List Column) (column : Column) : Prop where
  type : ∃ first rest, declared = first :: rest ∧ column.type = first.type
  reaches : ∀ length ∈ declared.filterMap (·.fixedLength), 0 < length →
    ∃ greatest, column.fixedLength = some greatest ∧ length ≤ greatest
  isDeclared : ∀ length, column.fixedLength = some length → 0 < length →
    length ∈ declared.filterMap (·.fixedLength)

namespace Column.SumsUp

theorem singleton (column : Column) : column.SumsUp [column] where
  type := ⟨column, [], rfl, rfl⟩
  reaches := by
    intro length declared _
    obtain ⟨only, mem, has⟩ := List.mem_filterMap.mp declared
    obtain rfl := List.mem_singleton.mp mem
    exact ⟨length, has, le_rfl⟩
  isDeclared := by
    intro length has _
    exact List.mem_filterMap.mpr ⟨column, List.mem_singleton_self column, has⟩

theorem merge {declared others : List Column} {first second : Column} (h : first.SumsUp declared)
    (h' : second.SumsUp others) : (first.merge second).SumsUp (declared ++ others) where
  type := by
    obtain ⟨d, rest, rfl, type⟩ := h.type
    exact ⟨d, rest ++ others, rfl, type⟩
  reaches := by
    intro length mem positive
    have one : ∃ reached, (first.fixedLength = some reached ∨ second.fixedLength = some reached) ∧
        length ≤ reached := by
      rw [List.filterMap_append, List.mem_append] at mem
      rcases mem with mem | mem
      · obtain ⟨reached, has, le⟩ := h.reaches length mem positive
        exact ⟨reached, .inl has, le⟩
      · obtain ⟨reached, has, le⟩ := h'.reaches length mem positive
        exact ⟨reached, .inr has, le⟩
    obtain ⟨reached, has, le⟩ := one
    obtain ⟨greatest, merged, further⟩ := mergeLength_of_pos (by omega) has
    exact ⟨greatest, merged, le.trans further⟩
  isDeclared := by
    intro length merged positive
    rw [List.filterMap_append, List.mem_append]
    exact (eq_or_eq_of_mergeLength positive merged).imp (h.isDeclared length · positive)
      (h'.isDeclared length · positive)

end Column.SumsUp

section

variable {parts : List Element} {element : Element}

/-- What stands under a name in an assembled element, if there is a declaration for it, sums up
what is declared for it. -/
theorem sumsUp_of_assembled (h : Assembled parts element) (name : String) :
    (∀ column, columnNamed name element.columns = some column →
      column.SumsUp (declarations parts name)) ∧
    (columnNamed name element.columns = none → declarations parts name = []) := by
  have single (element : Element) :
      (∀ column, columnNamed name element.columns = some column →
        column.SumsUp (declarations [element] name)) ∧
      (columnNamed name element.columns = none → declarations [element] name = []) := by
    cases found : columnNamed name element.columns with
    | none => simp [declarations, found]
    | some column => simpa [declarations, found] using Column.SumsUp.singleton column
  induction h with
  | vertex => exact single _
  | edge => exact single _
  | @merge parts others first second merged ofFirst ofSecond made ih ih' =>
    obtain ⟨-, -, -, -, columns⟩ := merge_eq_ok made
    rw [columns, columnNamed_foldl_mergeColumn (nodup_of_assembled ofFirst)
      (nodup_of_assembled ofSecond), declarations_append]
    cases found : columnNamed name first.columns <;>
      cases found' : columnNamed name second.columns
    case none.none => simp [ih.2 found, ih'.2 found', mergeNamed]
    case none.some column => simpa [ih.2 found, mergeNamed] using ih'.1 column found'
    case some.none column => simpa [ih'.2 found', mergeNamed] using ih.1 column found
    case some.some column other =>
      simpa [mergeNamed] using (ih.1 column found).merge (ih'.1 other found')

end

/-! ## Lengths of columns -/

/-- A string column is written with a length, which is the declared one if that is positive. -/
theorem sized_of_columnOf {settings : Settings} {property : Property} {column : Column}
    (h : columnOf settings property = .ok column)
    (isString : ColumnType.isStringText column.type = true) :
    ∃ (type : ValueType) (length : Int), type.isString = true ∧
      column.type = s!"{type.name}({length})" ∧ 1 ≤ length ∧ length ≤ maxStringLength ∧
      ∀ declared, column.fixedLength = some declared → 0 < declared → length = declared := by
  simp only [columnOf, declaredType, bind_eq_ok_iff, mapError_eq_ok_iff] at h
  obtain ⟨written, ⟨type, -, fits⟩, built⟩ := h
  cases built
  rw [isStringText_text fits] at isString
  obtain ⟨default, given⟩ := Option.isSome_iff_exists.mp isString
  have positive : 0 < default := by
    cases type <;> cases given <;> decide
  rw [ColumnType.ofValueType, given] at fits
  dsimp only at fits
  split at fits
  next => cases fits
  next within =>
    cases fits
    refine ⟨type, _, isString, rfl, ?_, not_lt.mp within, ?_⟩
    · unfold effectiveLength
      split
      next => split <;> omega
      next => omega
    · intro declared has counts
      have first : countingLength property.maxLength = some declared := by
        simp [countingLength, show property.maxLength = some declared from has, counts.ne']
      simp [effectiveLength, first, counts]

/-- An index on a part of a column is on a string, and the length is that of the column. -/
theorem exists_of_mem_indexes {element : Element} {kind : ElementKind} {name column : String}
    {length : Int} (index : .createIndex kind name column (some length) ∈ element.indexes) :
    ∃ c ∈ element.columns, c.name = column ∧ ColumnType.isStringText c.type = true ∧
      c.fixedLength = some length ∧ length ≠ 0 := by
  obtain ⟨c, indexed, same⟩ := List.mem_map.mp index
  simp only [SchemaStatement.createIndex.injEq, Column.indexLength] at same
  obtain ⟨-, -, name, part⟩ := same
  split at part
  next isString =>
    obtain ⟨has, counts⟩ := Option.filter_eq_some_iff.mp part
    exact ⟨c, List.mem_of_mem_filter indexed, name, isString, has, by simpa using counts⟩
  next => cases part

/-! ## Indexes that fit -/

/-- An index on a part of a string is on a column that sums up its declarations. The length of the
column is that of the first of them, if it is positive. The part is at least one and no longer than
the column if one of the declared lengths is positive and none is greater than that of the column.
Where there is one declaration only, this means that its length is positive. -/
theorem indexFits_iff {parts : List Element} {element : Element}
    (assembled : Assembled parts element) {kind : ElementKind} {name column : String} {part : Int}
    (index : .createIndex kind name column (some part) ∈ element.indexes) :
    ∃ c, columnNamed column element.columns = some c ∧ c.fixedLength = some part ∧
      ∃ (type : ValueType) (length : Int), c.type = s!"{type.name}({length})" ∧
        type.isString = true ∧ 1 ≤ length ∧ length ≤ maxStringLength ∧
        (∃ first rest, declarations parts column = first :: rest ∧ c.type = first.type ∧
          ∀ declared, first.fixedLength = some declared → 0 < declared → length = declared) ∧
        ((1 ≤ part ∧ part ≤ length) ↔
          (∃ declared ∈ declaredLengths parts column, 0 < declared) ∧
            ∀ declared ∈ declaredLengths parts column, declared ≤ length) ∧
        ((declarations parts column).length = 1 → ((1 ≤ part ∧ part ≤ length) ↔ 0 < part)) := by
  obtain ⟨c, among, rfl, isString, has, -⟩ := exists_of_mem_indexes index
  have found := columnNamed_of_mem (nodup_of_assembled assembled) among
  have sums := (sumsUp_of_assembled assembled c.name).1 c found
  obtain ⟨first, rest, declared, sameType⟩ := sums.type
  have ofPart : first ∈ declarations parts c.name := declared ▸ List.mem_cons_self
  obtain ⟨part', mem, foundFirst⟩ := List.mem_filterMap.mp ofPart
  obtain ⟨settings, property, made⟩ := exists_columnOf_of_assembled assembled part' mem first
    (mem_of_columnNamed foundFirst).1
  obtain ⟨type, length, string, written, positive, within, own⟩ :=
    sized_of_columnOf made (sameType ▸ isString)
  refine ⟨c, found, has, type, length, sameType.trans written, string, positive, within,
    ⟨first, rest, declared, sameType, own⟩, ⟨?_, ?_⟩, fun single => ⟨fun fits => fits.1, ?_⟩⟩
  · rintro ⟨counts, fits⟩
    refine ⟨⟨part, sums.isDeclared part has counts, counts⟩, fun other mem => ?_⟩
    by_cases more : 0 < other
    · obtain ⟨greatest, has', le⟩ := sums.reaches other mem more
      obtain rfl := Option.some.inj (has.symm.trans has')
      omega
    · omega
  · rintro ⟨⟨other, mem, more⟩, all⟩
    obtain ⟨greatest, has', le⟩ := sums.reaches other mem more
    obtain rfl := Option.some.inj (has.symm.trans has')
    have counts : 0 < part := by omega
    exact ⟨counts, all part (sums.isDeclared part has counts)⟩
  · intro counts
    have mem := sums.isDeclared part has counts
    obtain rfl : rest = [] := by
      simpa [declared] using single
    have ofFirst : first.fixedLength = some part := by
      simpa [declared] using mem
    exact ⟨counts, (own part ofFirst counts).ge⟩

/-- Books as they are declared for a shelf. -/
def shelfBook : Element where
  kind := .tag
  name := "Book"
  columns := [
    { name := "title", type := "STRING(20)", indexable := true, fixedLength := some 20 },
    { name := "pages", type := "INT64", indexable := true },
    { name := "since", type := "DATE", indexable := true },
    { name := "note", type := "STRING(256)" }]

theorem indexFits_iff_shelf :
    Assembled [shelfBook, shelfBook] shelfBook ∧
      .createIndex .tag "Book" "title" (some 20) ∈ shelfBook.indexes ∧
      ∃ (c : Column) (type : ValueType) (length : Int),
        columnNamed "title" shelfBook.columns = some c ∧ c.type = s!"{type.name}({length})" ∧
          1 ≤ (20 : Int) ∧ 20 ≤ length := by
  have once : Assembled [shelfBook] shelfBook :=
    .vertex isBuilt_shelfMapping List.mem_cons_self
      (show Element.ofVertex shelfMapping.settings _ = .ok shelfBook by decide +kernel)
  have twice : Assembled ([shelfBook] ++ [shelfBook]) shelfBook :=
    .merge once once (by decide +kernel)
  have index : .createIndex .tag "Book" "title" (some 20) ∈ shelfBook.indexes := by decide +kernel
  have lengths : declaredLengths ([shelfBook] ++ [shelfBook]) "title" = [20, 20] := by
    decide +kernel
  have given : (declarations ([shelfBook] ++ [shelfBook]) "title").head?.bind (·.fixedLength) =
      some 20 := by decide +kernel
  obtain ⟨c, found, -, type, length, written, -, -, -, ⟨first, rest, declared, -, own⟩, fits, -⟩ :=
    indexFits_iff twice index
  rw [declared, List.head?_cons, Option.bind_some] at given
  obtain rfl := own 20 given (by decide)
  rw [lengths] at fits
  exact ⟨twice, index, c, type, 20, found, written, fits.mpr (by simp)⟩

/-- All indexes of an element fit the columns that they are on. -/
def Element.IndexesFit (element : Element) : Prop :=
  ∀ kind name column part, .createIndex kind name column (some part) ∈ element.indexes →
    ∀ c ∈ element.columns, c.name = column → ∀ (type : ValueType) (length : Int),
      c.type = s!"{type.name}({length})" → 1 ≤ part ∧ part ≤ length

/-- Notes with an index on their texts, of a declared length. -/
def noteDefinition (length : Int) : Yaml.Value :=
  .map [(.string "tags", .map [
    (.string "Note", .map [
      (.string "from", .string "notes"),
      (.string "properties", .list [
        sampleEntry "text" "string"
          [(.string "index", .bool true), (.string "max_length", .integer length)]])])])]

/-- The mapping of notes. -/
def noteMapping (length : Int) : GraphMapping where
  vertices := [
    { tag := "Note"
      source := "notes"
      key := "id"
      properties := [
        { name := "text", path := "text", type := "string", indexable := true
          maxLength := some length }] }]

/-- Notes whose texts are declared with a written type and a length. -/
def noteElement (type : String) (length : Int) : Element where
  kind := .tag
  name := "Note"
  columns := [{ name := "text", type := type, indexable := true, fixedLength := some length }]

theorem assembled_noteElement {length : Int} {type : String}
    (built : mappingOf (noteDefinition length) = .ok (noteMapping length))
    (made : (noteMapping length).vertices.mapM (Element.ofVertex {}) =
      .ok [noteElement type length]) :
    Assembled [noteElement type length] (noteElement type length) := by
  obtain ⟨v, among, made⟩ := exists_of_mem_mapM made (List.mem_singleton_self _)
  exact .vertex (isBuilt_of_mappingOf built) among made

theorem le_of_indexesFit_noteElement (type : ValueType) (length : Int) {part : Int}
    (isString : ColumnType.isStringText s!"{type.name}({length})" = true) (counts : part ≠ 0)
    (fit : (noteElement s!"{type.name}({length})" part).IndexesFit) : 1 ≤ part ∧ part ≤ length := by
  refine fit .tag "Note" "text" part ?_ _ (List.mem_singleton_self _) rfl type length rfl
  refine List.mem_map.mpr ⟨_, List.mem_filter.mpr ⟨List.mem_singleton_self _, ?_⟩, ?_⟩
  · simp only [Column.isIndexed, isString, Bool.or_true, Bool.and_self]
  · have reduced : countingLength (some part) = some part := by simp [countingLength, counts]
    simp only [noteElement, Column.indexLength, isString, reduced, if_true]

/-- An index does not fit if its length is declared as a negative one, and it does not always fit if
declarations with positive lengths are merged. -/
theorem not_forall_indexesFit :
    (¬ ∀ element, Assembled [element] element → element.IndexesFit) ∧
      ¬ ∀ parts element, Assembled parts element →
        (∀ column, ∀ length ∈ declaredLengths parts column, 0 < length) → element.IndexesFit := by
  constructor
  · intro always
    have negative : Assembled [noteElement "STRING(256)" (-5)] (noteElement "STRING(256)" (-5)) :=
      assembled_noteElement rfl (by decide +kernel)
    have fits : 1 ≤ (-5 : Int) ∧ (-5 : Int) ≤ 256 :=
      le_of_indexesFit_noteElement .string 256 (by decide +kernel) (by decide)
        (always _ negative)
    omega
  · intro always
    have brief : Assembled [noteElement "STRING(32)" 32] (noteElement "STRING(32)" 32) :=
      assembled_noteElement rfl (by decide +kernel)
    have long : Assembled [noteElement "STRING(64)" 64] (noteElement "STRING(64)" 64) :=
      assembled_noteElement rfl (by decide +kernel)
    have merged : Assembled _ (noteElement "STRING(32)" 64) :=
      .merge brief long (by decide +kernel)
    have fit := always _ _ merged (by
      intro column length mem
      by_cases text : "text" = column <;>
        simp [declaredLengths, declarations, columnNamed, noteElement, text] at mem
      omega)
    have fits : 1 ≤ (64 : Int) ∧ (64 : Int) ≤ 32 :=
      le_of_indexesFit_noteElement .string 32 (by decide +kernel) (by decide) fit
    omega

end DocGraph
