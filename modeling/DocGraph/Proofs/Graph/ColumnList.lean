import DocGraph.Proofs.Graph.UpsertColumns

/-!
# Names in lists of columns

The names of dynamic properties are keys of records, and may be any texts. A name is written bare if
it is plain, and otherwise in back-ticks as it is. Only for the name without characters nothing is
written, although it is not plain. What is in back-ticks is not marked in any way, so a name with a
closing back-tick and a separator in it can look like two names. As long as no name holds these, a
list of columns is told by its text, except that a column without a name looks like no column.

## Main definitions

* `Seamless`: a name in which no closing back-tick is followed by a separator.
* `IsBare`: a name that is written without back-ticks.

## Main results

* `selfDelimiting_writtenName`: a seamless name is told from its written form in a list.
* `columnsText_eq_iff`: which lists of seamless names are written alike.
* `columns_of_upsert_written`: how the columns of a record are written.
-/

namespace DocGraph

/-! ## Written names -/

/-- What ends a name in back-ticks and starts the next one does not stand inside of a name. -/
def Seamless (name : String) : Prop := ¬ [backtick, ',', ' '] <:+: name.toList

instance (name : String) : Decidable (Seamless name) := inferInstanceAs (Decidable (¬ _))

/-- A name is written bare: it is plain, or it has no characters. -/
def IsBare (name : String) : Prop := (name.isEmpty || isPlainIdentifier name) = true

theorem writeName_of_isBare {name : String} (bare : IsBare name) : writeName name = name :=
  if_pos bare

theorem toList_writeName_of_not_isBare {name : String} (quoted : ¬ IsBare name) :
    (writeName name).toList = backtick :: (name.toList ++ [backtick]) := by
  have written : writeName name = String.ofList (backtick :: name.toList ++ [backtick]) :=
    if_neg quoted
  rw [written, String.toList_ofList]
  rfl

theorem isBareChar_of_isBare {name : String} (bare : IsBare name) :
    ∀ c ∈ name.toList, isBareChar c = true := by
  rcases Bool.or_eq_true_iff.mp bare with empty | plain
  · simp [String.isEmpty_iff.mp empty]
  · exact isBareChar_of_isPlainIdentifier plain

theorem stopsAt_of_separatorOrEnd {rest : List Char} (h : SeparatorOrEnd rest) :
    StopsAt isBareChar rest := by
  rcases h with rfl | ⟨more, rfl⟩
  · simp [StopsAt]
  · exact (stopsAt_cons _).mpr rfl

/-- A bare name with what may follow it does not start with a back-tick. -/
theorem bare_append_ne_backtick_cons {name : String} (bare : IsBare name) {rest : List Char}
    (follows : SeparatorOrEnd rest) (more : List Char) :
    name.toList ++ rest ≠ backtick :: more := by
  intro starts
  rcases List.append_eq_cons_iff.mp starts with ⟨-, same⟩ | ⟨within, starts, -⟩
  · rcases follows with rfl | ⟨later, rfl⟩
    · cases same
    · exact absurd (List.cons.inj same).1 (by decide)
  · exact toList_ne_backtick_cons bare within starts

/-- Where a name in back-ticks is closed and something follows that may, another one does not go on:
it would hold a seam. -/
theorem eq_nil_of_seamless {name : String} (seamless : Seamless name)
    {before within rest later : List Char} (longer : name.toList = before ++ within)
    (follows : SeparatorOrEnd rest) (same : backtick :: rest = within ++ backtick :: later) :
    within = [] := by
  rcases List.cons_eq_append_iff.mp same with ⟨nothing, -⟩ | ⟨further, rfl, goesOn⟩
  · exact nothing
  · exfalso
    have separator : [',', ' '] <+: further := by
      rcases follows with rfl | ⟨more, rfl⟩
      · simp at goesOn
      · match further with
        | [] => exact absurd (List.cons.inj goesOn).1 (by decide)
        | [_] => exact absurd (List.cons.inj (List.cons.inj goesOn).2).1 (by decide)
        | _ :: _ :: further =>
          obtain ⟨rfl, rfl, -⟩ : ',' = _ ∧ ' ' = _ ∧ _ := by simpa using goesOn
          exact List.prefix_append _ _
    have seam : [backtick, ',', ' '] <:+: backtick :: further :=
      (List.cons_prefix_cons.mpr ⟨rfl, separator⟩).isInfix
    have suffix : backtick :: further <:+ name.toList := ⟨before, longer.symm⟩
    exact seamless (seam.trans suffix.isInfix)

theorem selfDelimiting_writtenName :
    SelfDelimiting Seamless SeparatorOrEnd fun name => (writeName name).toList := by
  intro a b ha hb x y hx hy same
  by_cases bare : IsBare a
  · by_cases bare' : IsBare b
    · simp only [writeName_of_isBare bare, writeName_of_isBare bare'] at same
      obtain ⟨chars, rest⟩ := selfDelimiting_span isBareChar (isBareChar_of_isBare bare)
        (isBareChar_of_isBare bare') (stopsAt_of_separatorOrEnd hx) (stopsAt_of_separatorOrEnd hy)
        same
      exact ⟨String.toList_inj.mp chars, rest⟩
    · simp only [writeName_of_isBare bare, toList_writeName_of_not_isBare bare'] at same
      exact absurd same (bare_append_ne_backtick_cons bare hx _)
  · by_cases bare' : IsBare b
    · simp only [writeName_of_isBare bare', toList_writeName_of_not_isBare bare] at same
      exact absurd same.symm (bare_append_ne_backtick_cons bare' hy _)
    · simp only [toList_writeName_of_not_isBare bare, toList_writeName_of_not_isBare bare',
        List.cons_append, List.append_assoc, List.cons.injEq, true_and, List.nil_append] at same
      -- One of the two names is closed first, and there the other one would have to go on.
      rcases List.append_eq_append_iff.mp same with
        ⟨within, longer, rest⟩ | ⟨within, longer, rest⟩
      · obtain rfl := eq_nil_of_seamless hb longer hx rest
        exact ⟨String.toList_inj.mp (by simpa using longer.symm), by simpa using rest⟩
      · obtain rfl := eq_nil_of_seamless ha longer hy rest
        exact ⟨String.toList_inj.mp (by simpa using longer), by simpa using rest.symm⟩

/-! ## Lists of columns -/

theorem toList_writeName_eq_nil_iff {name : String} : (writeName name).toList = [] ↔ name = "" := by
  constructor
  · intro nothing
    by_cases bare : IsBare name
    · rw [writeName_of_isBare bare] at nothing
      exact String.toList_eq_nil_iff.mp nothing
    · rw [toList_writeName_of_not_isBare bare] at nothing
      cases nothing
  · rintro rfl
    rfl

/-- Lists of seamless names are written alike if they are the same, or if one of them is empty and
the other one has a single name without characters. -/
theorem columnsText_eq_iff {columns others : List String}
    (seamless : ∀ name ∈ columns, Seamless name) (seamless' : ∀ name ∈ others, Seamless name) :
    columnsText columns = columnsText others ↔
      columns = others ∨ (columns = [] ∧ others = [""]) ∨ (columns = [""] ∧ others = []) := by
  constructor
  · intro same
    have chars := congrArg String.toList same
    rw [toList_columns, toList_columns] at chars
    have lists := List.append_cancel_right (List.cons.inj chars).2
    rcases selfDelimiting_writtenName.eq_of_separated seamless seamless' lists with
      same | ⟨rfl, name, rfl, nothing⟩ | ⟨rfl, name, rfl, nothing⟩
    · exact .inl same
    · obtain rfl := toList_writeName_eq_nil_iff.mp nothing
      exact .inr (.inl ⟨rfl, rfl⟩)
    · obtain rfl := toList_writeName_eq_nil_iff.mp nothing
      exact .inr (.inr ⟨rfl, rfl⟩)
  · rintro (rfl | ⟨rfl, rfl⟩ | ⟨rfl, rfl⟩) <;> rfl

/-! ## Columns of an upsert -/

theorem text_upsertVertex (tag : String) (columns : List String) (row : VertexRow) :
    (DataStatement.upsertVertex tag columns row).text = "UPSERT VERTEX " ++ writeName tag ++ " " ++
      row.id.text ++ " " ++ columnsText columns ++ " VALUES " ++ valuesText row.values ++ ";" :=
  rfl

theorem allPlain_of_schemaElements {mapping : GraphMapping} {elements : List Element}
    (declared : schemaElements mapping = .ok elements) {v : VertexMapping}
    (vertex : v ∈ mapping.vertices) : AllPlain (v.tag :: columnNames v.properties) := by
  obtain ⟨element, -, declares⟩ := exists_declares declared (mem_readouts_of_vertex vertex)
  exact declares.allPlain

theorem exists_entry_of_mem_admitted {v : VertexMapping} {record : Json} {name : String}
    (mem : name ∈ (v.admitted record).map Prod.fst) :
    ∃ fields value, record = .object fields ∧ (name, value) ∈ fields := by
  obtain ⟨⟨name, value⟩, admitted, rfl⟩ := List.mem_map.mp mem
  cases record with
  | object fields => exact ⟨fields, value, rfl, List.mem_of_mem_filter admitted⟩
  | _ => cases admitted

/-- Only without declared properties, there can be no column at all, or a single one without
characters. -/
theorem eq_nil_of_columns_few {properties : List Property} {keys : List String}
    (some : "" ∉ columnNames properties)
    (few : columnNames properties ++ keys = [] ∨ columnNames properties ++ keys = [""]) :
    properties = [] := by
  cases properties with
  | nil => rfl
  | cons property rest =>
    rcases few with none | single
    · cases none
    · have nameless : property.name = "" := (List.cons.inj single).1
      simp [columnNames, nameless] at some

/-- If there is a schema for a mapping, the upsert of a record has the columns of the declared
properties bare. Of the others, those whose names are plain are written bare too, and the rest
between back-ticks as they are. Only one without characters, which is there if the record has such
a key, is written as nothing instead. If no name holds a back-tick followed by a comma and a space,
the text of the list of columns is that of no other list of such names, except that without declared
properties, a single column without characters is written like no column at all. -/
theorem columns_of_upsert_written (registry : TransformRegistry) {mapping : GraphMapping}
    {elements : List Element} (declared : schemaElements mapping = .ok elements)
    {v : VertexMapping} (vertex : v ∈ mapping.vertices) {record : Json} {session : Session}
    {statement : DataStatement}
    (h : (upsert? registry v record).outcome session = .ok (some statement)) :
    (∃ id values, statement.text = "UPSERT VERTEX " ++ v.tag ++ " " ++ VertexId.text id ++ " " ++
      columnsText statement.columns ++ " VALUES " ++ valuesText values ++ ";") ∧
    (∀ name ∈ columnNames v.properties,
      name ∈ statement.columns ∧ name ≠ "" ∧ isPlainIdentifier name = true) ∧
    (∀ name ∈ statement.columns,
      (isPlainIdentifier name = true → writeName name = name) ∧
      (isPlainIdentifier name = false → name ≠ "" →
        (writeName name).toList = backtick :: (name.toList ++ [backtick])) ∧
      (name = "" → writeName name = "" ∧
        ∃ fields value, record = .object fields ∧ (name, value) ∈ fields)) ∧
    ∀ others : List String, (∀ name ∈ statement.columns, Seamless name) →
      (∀ name ∈ others, Seamless name) →
      (columnsText statement.columns = columnsText others ↔ statement.columns = others ∨
        v.properties = [] ∧ (statement.columns = [] ∧ others = [""] ∨
          statement.columns = [""] ∧ others = [])) := by
  obtain ⟨id, key, -, given⟩ := exists_upsert_of_upsert? h
  obtain ⟨values, dynamic, -, -, -, rfl⟩ := upsert_eq registry key given
  obtain ⟨tag, plain⟩ := List.forall_mem_cons.mp (allPlain_of_schemaElements declared vertex)
  -- So a column without a name is not declared, and its name is a key of the record.
  have some : "" ∉ columnNames v.properties := fun among => absurd (plain "" among) (by decide)
  refine ⟨⟨id, values ++ dynamic, ?_⟩, ?_, ?_, ?_⟩
  · simp only [text_upsertVertex, writeName_of_isPlainIdentifier tag, DataStatement.columns]
  · intro name among
    exact ⟨List.mem_append_left _ among, ne_of_mem_of_not_mem among some, plain name among⟩
  · intro name among
    refine ⟨writeName_of_isPlainIdentifier, ?_, ?_⟩
    · intro notPlain nonempty
      exact toList_writeName_of_not_isBare (by simp [IsBare, notPlain, nonempty])
    · rintro rfl
      exact ⟨rfl, exists_entry_of_mem_admitted ((List.mem_append.mp among).resolve_left some)⟩
  · intro others seamless seamless'
    rw [columnsText_eq_iff seamless seamless']
    constructor
    · rintro (same | same | same)
      · exact .inl same
      · exact .inr ⟨eq_nil_of_columns_few some (.inl same.1), .inl same⟩
      · exact .inr ⟨eq_nil_of_columns_few some (.inr same.1), .inr same⟩
    · rintro (same | ⟨-, same⟩)
      · exact .inl same
      · exact .inr same

/-- A runner with a key that has to be written between back-ticks. -/
def clubRunner : Json :=
  .object [("card", .object [("number", .integer 7)]), ("name", .string "kim"),
    ("club room", .string "red")]

theorem columns_of_upsert_written_runner :
    (∃ elements, schemaElements { vertices := [runnersVertex] } = .ok elements) ∧
      (upsert? .builtin runnersVertex clubRunner).outcome {} = .ok (some
        (.upsertVertex "Runner" ["name", "club room"]
          ⟨⟨"7"⟩, [.value (.text "kim"), .value (.text "red")]⟩)) ∧
      (writeName "club room").toList = backtick :: ("club room".toList ++ [backtick]) ∧
      columnsText ["name", "club room"] ≠ columnsText ["name", "club", "room"] := by
  have written : (upsert? .builtin runnersVertex clubRunner).outcome {} = .ok (some
      (.upsertVertex "Runner" ["name", "club room"]
        ⟨⟨"7"⟩, [.value (.text "kim"), .value (.text "red")]⟩)) := by
    rw [← toOption_eq_some_iff]
    decide +kernel
  have declared : ∃ elements, schemaElements { vertices := [runnersVertex] } = .ok elements :=
    ⟨_, rfl⟩
  obtain ⟨elements, known⟩ := declared
  obtain ⟨-, -, names, lists⟩ :=
    columns_of_upsert_written .builtin known List.mem_cons_self written
  have room := (names "club room" (by decide)).2.1 (by decide) (by decide)
  refine ⟨⟨elements, known⟩, written, room, ?_⟩
  intro same
  rcases (lists ["name", "club", "room"] (by decide) (by decide)).mp same with same | ⟨none, -⟩
  · exact absurd same (by decide)
  · cases none

/-- Notes without declared properties. -/
def notesVertex : VertexMapping where
  tag := "Note"
  source := "notes"
  key := "id"
  properties := []
  dynamicFields := { enabled := true }

def notesMapping : GraphMapping := { vertices := [notesVertex] }

/-- A key without characters is a column without a name, which looks like no column. The keys of one
record can look like the single key of another one that holds a seam. -/
theorem columns_of_upsert_mistakable :
    (∃ elements, schemaElements notesMapping = .ok elements) ∧
      notesVertex ∈ notesMapping.vertices ∧ notesVertex.dynamicFields.enabled = true ∧
      (upsert? .builtin notesVertex (.object [("id", .integer 1)])).outcome {} =
        .ok (some (.upsertVertex "Note" [] ⟨⟨"1"⟩, []⟩)) ∧
      (upsert? .builtin notesVertex (.object [("id", .integer 2), ("", .integer 5)])).outcome {} =
        .ok (some (.upsertVertex "Note" [""] ⟨⟨"2"⟩, [.value (.integer 5)]⟩)) ∧
      writeName "" = "" ∧ columnsText [] = columnsText [""] ∧
      (upsert? .builtin notesVertex
          (.object [("id", .integer 3), ("a b", .integer 5), ("c d", .integer 6)])).outcome {} =
        .ok (some (.upsertVertex "Note" ["a b", "c d"]
          ⟨⟨"3"⟩, [.value (.integer 5), .value (.integer 6)]⟩)) ∧
      (upsert? .builtin notesVertex
          (.object [("id", .integer 4), ("a b`, `c d", .integer 5)])).outcome {} =
        .ok (some (.upsertVertex "Note" ["a b`, `c d"] ⟨⟨"4"⟩, [.value (.integer 5)]⟩)) ∧
      columnsText ["a b", "c d"] = columnsText ["a b`, `c d"] := by
  refine ⟨⟨_, rfl⟩, List.mem_cons_self, rfl, ?_, ?_, rfl, rfl, ?_, ?_, by decide⟩
  all_goals
    rw [← toOption_eq_some_iff]
    decide +kernel

end DocGraph
